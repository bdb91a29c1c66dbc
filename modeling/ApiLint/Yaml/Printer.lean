import ApiLint.Text.Bytes
import ApiLint.Yaml.Plain

/-!
# Writing YAML

A value is written in block style, two blanks a level. Empty collections are written
with brackets. A string is plain where that can be read back as the same string, else in
single quotes, or in double quotes where characters have to be escaped; a string with a
line feed is a literal block.

A key that is not short, or not on one line, gets indicators of its own for key and value.
A sequence that is the value of a plain key is not indented.

Some values cannot be written: a mapping of one entry whose key is tagged, or is itself a
mapping of one entry, unless the mapping has a tag.
-/

namespace ApiLint.Yaml.Printer

/-- How a node is written: as a scalar or a pair of brackets, which may go on over further
lines, or as the lines of a block. -/
inductive Form where
  | inline (head : Text) (more : List Text)
  | sequenceBlock (lines : List Text)
  | mappingBlock (lines : List Text)
  deriving Repr, Inhabited

/-- A node as it is written, with its tag. -/
structure Written where
  tag? : Option Text
  form : Form
  deriving Repr, Inhabited

/-- A line below something that is indented two blanks less. -/
def indented (line : Text) : Text := if line.isEmpty then [] else ' ' :: ' ' :: line

/-- Whether a string might be taken for something else by a reader of plain scalars. -/
def isAmbiguous (s : Text) : Bool :=
  let lower := s.map Char.toLower
  (Plain.bool? lower).isSome || Plain.isNull lower
    || (match lower with
      | [] => true
      | c :: _ => Numeral.isDecimal c || c == '-' || c == '.' || c == '+')

/-- Words that some readers take for truth values. -/
def truthWords : List String := [
  "y", "Y", "yes", "Yes", "YES", "n", "N", "no", "No", "NO", "true", "True", "TRUE", "false",
  "False", "FALSE", "on", "On", "ON", "off", "Off", "OFF"]

/-- Whether a plain scalar of these characters would not be read as a string. -/
def needsQuotes (s : Text) : Bool :=
  truthWords.any (fun word => word.toList == s) || isAmbiguous s
    || (match Plain.meaning s with
      | .ok (.string _) => false
      | _ => true)

def isBreak (c : Char) : Bool :=
  c == '\n' || c == '\r' || c.toNat == 0x85 || c.toNat == 0x2028 || c.toNat == 0x2029

def isPrintable (c : Char) : Bool :=
  let n := c.toNat
  n == 10 || (0x20 ≤ n && n ≤ 0x7E) || (0xA0 ≤ n && n ≤ 0xD7FF)
    || (0xE000 ≤ n && n ≤ 0xFFFD && n != 0xFEFF) || 0x10000 ≤ n

/-- Whether a blank follows a line break, or with `swapped` a line break a blank. -/
def hasPair (swapped : Bool) : Text → Bool
  | a :: b :: rest =>
    (if swapped then a == ' ' && isBreak b else isBreak a && b == ' ')
      || hasPair swapped (b :: rest)
  | _ => false

/-- Whether an indicator stands where a plain scalar must not have it. -/
def hasIndicator (before : Option Char) : Text → Bool
  | [] => false
  | c :: rest =>
    let gapAfter := match rest with
      | [] => true
      | d :: _ => d == ' ' || d == '\t' || isBreak d
    let gapBefore := match before with
      | none => true
      | some b => b == ' ' || b == '\t' || isBreak b
    let here := match before with
      | none =>
        ['#', ',', '[', ']', '{', '}', '&', '*', '!', '|', '>', '\'', '"', '%', '@',
          Char.ofNat 0x60].contains c
          || ((c == '?' || c == ':' || c == '-') && gapAfter)
      | some _ => (c == ':' && gapAfter) || (c == '#' && gapBefore)
    here || hasIndicator (some c) rest

/-- Whether the string looks like the start or end of a document. -/
def startsDocument (s : Text) : Bool :=
  s.take 3 == ['-', '-', '-'] || s.take 3 == ['.', '.', '.']

/-- Whether the first or last character is a blank or a line break. -/
def hasEdge (s : Text) : Bool :=
  let isEdge (c? : Option Char) : Bool := match c? with
    | some c => c == ' ' || isBreak c
    | none => false
  isEdge s.head? || isEdge s.getLast?

/-- Whether all characters may be written as they are. -/
def allPrintable (s : Text) : Bool := s.all isPrintable

/-- Whether the plain style can hold the string. -/
def allowsPlain (s : Text) : Bool :=
  !(s.isEmpty || startsDocument s || hasIndicator none s || hasEdge s || s.any isBreak
    || !allPrintable s)

/-- Whether single quotes can hold the string. -/
def allowsSingle (s : Text) : Bool := allPrintable s && !hasPair false s && !hasPair true s

/-- Whether a literal block can hold the string. -/
def allowsLiteral (s : Text) : Bool := allPrintable s && !hasPair true s && s.getLast? != some ' '

/-- Hexadecimal digits in capitals, at least `width` of them. -/
def hexDigits (width n : Nat) : Text :=
  let digits := (Nat.toDigits 16 n).map Char.toUpper
  List.replicate (width - digits.length) '0' ++ digits

/-- A character as it stands in double quotes. -/
def escapeChar (c : Char) : Text :=
  let n := c.toNat
  if n = 0 then ['\\', '0'] else if n = 7 then ['\\', 'a'] else if n = 8 then ['\\', 'b']
  else if n = 9 then ['\\', 't'] else if n = 10 then ['\\', 'n'] else if n = 11 then ['\\', 'v']
  else if n = 12 then ['\\', 'f'] else if n = 13 then ['\\', 'r'] else if n = 0x1B then ['\\', 'e']
  else if c = '"' then ['\\', '"'] else if c = '\\' then ['\\', '\\']
  else if n = 0x85 then ['\\', 'N'] else if n = 0x2028 then ['\\', 'L']
  else if n = 0x2029 then ['\\', 'P']
  else if isPrintable c then [c]
  else if n < 0x100 then '\\' :: 'x' :: hexDigits 2 n
  else if n < 0x10000 then '\\' :: 'u' :: hexDigits 4 n
  else '\\' :: 'U' :: hexDigits 8 n

def doubleQuoted (s : Text) : Text := '"' :: s.flatMap escapeChar ++ ['"']

def singleQuoted (s : Text) : Text :=
  '\'' :: (s.flatMap fun c => if c = '\'' then ['\'', '\''] else [c]) ++ ['\'']

/-- The header of a literal block: an indentation where the first line could hide it,
and what happens to the line feeds at the end. -/
def literalHeader (s : Text) : Text :=
  let hint : Text := match s.head? with
    | some c => if c == ' ' || isBreak c then ['2'] else []
    | none => []
  let chomping : Text := match s.reverse with
    | c :: rest =>
      if !isBreak c then ['-']
      else match rest with
        | [] => ['+']
        | d :: _ => if isBreak d then ['+'] else []
    | [] => ['-']
  '|' :: hint ++ chomping

def literalLines (s : Text) : List Text :=
  let lines := s.split '\n'
  (if lines.getLast? == some [] then lines.dropLast else lines).map indented

/-- How a string is written; as a key on one line it may not be a literal block. -/
def string (s : Text) : Form :=
  if s.contains '\n' then
    if allowsLiteral s then .inline (literalHeader s) (literalLines s)
    else .inline (doubleQuoted s) []
  else if allowsPlain s && !needsQuotes s then .inline s []
  else if allowsSingle s then .inline (singleQuoted s) []
  else .inline (doubleQuoted s) []

/-- A tag after its exclamation mark. -/
def tagText (tag : String) : Text := if tag = "!" then "!<!>".toList else '!' :: tag.toList

/-- What stands on the first line of a node after an indicator. -/
def Written.head (written : Written) : Text :=
  let tag := written.tag?.getD []
  match written.form with
  | .inline head _ => if tag.isEmpty then head else tag ++ ' ' :: head
  | _ => tag

def after (indicator : Text) (head : Text) : Text :=
  if head.isEmpty then indicator else indicator ++ ' ' :: head

/-- The lines of a node that follows an indicator of its own at the start of a line. The
block of an untagged node goes on in that line. A tagged sequence is not indented when
`flush`. -/
def hanging (indicator : Char) (flush : Bool) (written : Written) : List Text :=
  match written.form, written.tag? with
  | .inline _ more, _ => after [indicator] written.head :: more
  | .sequenceBlock lines, some tag =>
    after [indicator] tag :: (if flush then lines else lines.map indented)
  | .mappingBlock lines, some tag => after [indicator] tag :: lines.map indented
  | .sequenceBlock lines, none => blockLines lines
  | .mappingBlock lines, none => blockLines lines
where
  /-- A block whose first line follows the indicator. -/
  blockLines : List Text → List Text
    | [] => [[indicator]]
    | first :: rest => after [indicator] first :: rest.map indented

/-- The lines of the value of a key that stands on the same line. -/
def valueAfter (key : Text) (written : Written) : List Text :=
  let head := after (key ++ [':']) written.head
  match written.form with
  | .inline _ more => head :: more
  | .sequenceBlock lines => head :: lines
  | .mappingBlock lines => head :: lines.map indented

/-- The longest key, in bytes, that shares a line with its value. -/
def simpleKeyLength : Nat := 128

/-- The key as it stands before its colon, if it is short and on one line. -/
def simpleKey? (written : Written) : Option Text :=
  match written.form with
  | .inline head [] =>
    if Text.byteLength (written.tag?.getD [] ++ head) ≤ simpleKeyLength then
      some (if written.form matches .inline _ _ then written.head else [])
    else none
  | _ => none

def entryLines (key value : Written) : List Text :=
  match simpleKey? key with
  | some text => valueAfter text value
  | none => hanging '?' true key ++ hanging ':' true value

/-- Whether a key loses the mapping of one entry around it. -/
def hidesMapping : Yaml → Bool
  | .tagged .. => true
  | .mapping [_] => true
  | _ => false

mutual

/-- How a value is written; `tagged` below a tag. -/
def write (tagged : Bool) : Yaml → Option Written
  | .null => some ⟨none, .inline "null".toList []⟩
  | .bool b => some ⟨none, .inline (toString b).toList []⟩
  | .number n => some ⟨none, .inline (numberText n).toList []⟩
  | .string s => some ⟨none, string s.toList⟩
  | .sequence items =>
    match items with
    | [] => some ⟨none, .inline ['[', ']'] []⟩
    | _ => (itemLines items).map fun lines => ⟨none, .sequenceBlock lines⟩
  | .mapping entries =>
    match entries with
    | [] => some ⟨none, .inline ['{', '}'] []⟩
    | [(key, _)] =>
      if !tagged && hidesMapping key then none
      else (pairLines entries).map fun lines => ⟨none, .mappingBlock lines⟩
    | _ => (pairLines entries).map fun lines => ⟨none, .mappingBlock lines⟩
  | .tagged tag value =>
    if tagged then none
    else (write true value).map fun written => { written with tag? := some (tagText tag) }

def itemLines : List Yaml → Option (List Text)
  | [] => some []
  | item :: rest => do
    let written ← write false item
    return hanging '-' false written ++ (← itemLines rest)

/-- The lines of the entries of a mapping. -/
def pairLines : List (Yaml × Yaml) → Option (List Text)
  | [] => some []
  | (key, value) :: rest => do
    let writtenKey ← write false key
    let writtenValue ← write false value
    return entryLines writtenKey writtenValue ++ (← pairLines rest)

end

def lines (written : Written) : List Text :=
  match written.form, written.tag? with
  | .inline _ more, _ => written.head :: more
  | .sequenceBlock lines, tag? => tag?.toList ++ lines
  | .mappingBlock lines, tag? => tag?.toList ++ lines

end ApiLint.Yaml.Printer

namespace ApiLint.Yaml

def print? (value : Yaml) : Option Text :=
  (Printer.write false value).map fun written => Text.join '\n' (Printer.lines written)

end ApiLint.Yaml
