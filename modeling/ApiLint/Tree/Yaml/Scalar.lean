import ApiLint.Path.Numeral
import ApiLint.Tree

/-!
# Scalars in the concrete tree of YAML

The readers take the characters of the document as an array and a place in it.
Here are the character classes, white space with its comments, and the scalars
that need no knowledge of what surrounds them: quoted ones, names of anchors, tags.
A plain scalar also has a core type, which shows in the kind of its node.
-/

namespace ApiLint.Tree.OfYaml

/-- What a reader answers: a result and the place after it, or nothing. -/
abbrev Step (α : Type) := Option (α × Nat)

def isBlankChar (c : Char) : Bool := c == ' ' || c == '\t'

def isBreak (c : Char) : Bool := c == '\n' || c == '\r'

/-- Whether a blank, a line break or the end of the text is at `i`. -/
def isGapAt (cs : Array Char) (i : Nat) : Bool :=
  match cs[i]? with
  | some c => isBlankChar c || isBreak c
  | none => true

/-- Whether the character is a bracket or comma of flow notation. -/
def isFlowMark (c : Char) : Bool := c == ',' || c == '[' || c == ']' || c == '{' || c == '}'

/-- The first place from `i` on where `test` fails. -/
def skipWhile (test : Char → Bool) (cs : Array Char) (i : Nat) : Nat → Nat
  | 0 => i
  | fuel + 1 =>
    match cs[i]? with
    | some c => if test c then skipWhile test cs (i + 1) fuel else i
    | none => i

/-- The number of characters between the last line break before `i` and `i`. -/
def column (cs : Array Char) (i : Nat) : Nat → Nat
  | 0 => 0
  | fuel + 1 =>
    if i = 0 then 0
    else match cs[i - 1]? with
      | some c => if isBreak c then 0 else column cs (i - 1) fuel + 1
      | none => 0

/-- The column of `i`. -/
def columnAt (cs : Array Char) (i : Nat) : Nat := column cs i cs.size

/-- Whether a line break stands between `i` and `j`. -/
def crossesLine (cs : Array Char) (i j : Nat) : Bool :=
  (cs.extract i j).any isBreak

/-- Whether a line of three such characters, a document marker, starts at `i`. -/
def isMarkerOf (c : Char) (cs : Array Char) (i : Nat) : Bool :=
  cs[i]? == some c && cs[i + 1]? == some c && cs[i + 2]? == some c && isGapAt cs (i + 3)
    && columnAt cs i == 0

/-- Whether a document starts or ends explicitly at `i`. -/
def isMarker (cs : Array Char) (i : Nat) : Bool := isMarkerOf '-' cs i || isMarkerOf '.' cs i

/-- The comments from `i` on, and the place of the next token. A comment starts a
line or follows a blank. -/
def gap (cs : Array Char) (i : Nat) (held : List Tree) : Nat → List Tree × Nat
  | 0 => (held.reverse, i)
  | fuel + 1 =>
    let j := skipWhile (fun c => isBlankChar c || isBreak c) cs i cs.size
    if cs[j]? == some '#' && (j == 0 || isGapAt cs (j - 1)) then
      let stop := skipWhile (fun c => !isBreak c) cs j cs.size
      gap cs stop (.named "comment" j stop [] :: held) fuel
    else (held.reverse, j)

/-- The comments from `i` on, and the place of the next token. -/
def gapAt (cs : Array Char) (i : Nat) : List Tree × Nat := gap cs i [] (cs.size + 1)

/-- How many characters follow a backslash and this character in an escape. -/
def escapeDigits (c : Char) : Nat :=
  if c = 'x' then 2 else if c = 'u' then 4 else if c = 'U' then 8 else 0

/-- The escapes of a double-quoted scalar from `i` on, and the place of its closing
quote. -/
def doubleQuoted (cs : Array Char) (i : Nat) (held : List Tree) : Nat → Step (List Tree)
  | 0 => none
  | fuel + 1 =>
    match cs[i]? with
    | none => none
    | some '"' => some (held.reverse, i)
    | some '\\' =>
      let stop := i + 2 + escapeDigits ((cs[i + 1]?).getD ' ')
      if stop ≤ cs.size then
        doubleQuoted cs stop (.named "escape_sequence" i stop [] :: held) fuel
      else none
    | some _ => doubleQuoted cs (i + 1) held fuel

/-- The escapes of a single-quoted scalar from `i` on, and the place of its closing
quote. -/
def singleQuoted (cs : Array Char) (i : Nat) (held : List Tree) : Nat → Step (List Tree)
  | 0 => none
  | fuel + 1 =>
    match cs[i]?, cs[i + 1]? with
    | none, _ => none
    | some '\'', some '\'' =>
      singleQuoted cs (i + 2) (.named "escape_sequence" i (i + 2) [] :: held) fuel
    | some '\'', _ => some (held.reverse, i)
    | some _, _ => singleQuoted cs (i + 1) held fuel

/-- The words of the core types, and whether a plain scalar spells one. -/
def isNull (text : Text) : Bool := ["null", "Null", "NULL", "~"].any fun w => w.toList == text

/-- Whether a plain scalar spells a truth value. -/
def isBoolean (text : Text) : Bool :=
  ["true", "True", "TRUE", "false", "False", "FALSE"].any fun w => w.toList == text

def allDigits (base : Nat) (text : Text) : Bool :=
  !text.isEmpty && text.all fun c => (Numeral.digitValue? base c).isSome

/-- Whether a plain scalar spells an integer. -/
def isInteger (text : Text) : Bool :=
  allDigits 10 (Numeral.unsigned text)
    || (match text with
      | '0' :: 'o' :: digits => allDigits 8 digits
      | '0' :: 'x' :: digits => allDigits 16 digits
      | _ => false)

/-- Whether a plain scalar spells a floating-point number. -/
def isFloat (text : Text) : Bool :=
  Numeral.isDecimalNotation text
    || [".inf", ".Inf", ".INF"].any (fun w => w.toList == Numeral.unsigned text)
    || [".nan", ".NaN", ".NAN"].any (fun w => w.toList == text)

/-- The kind of the node inside a plain scalar. -/
def scalarKind (text : Text) : String :=
  if isNull text then "null_scalar"
  else if isBoolean text then "boolean_scalar"
  else if isInteger text then "integer_scalar"
  else if isFloat text then "float_scalar"
  else "string_scalar"

def plainNode (cs : Array Char) (start stop : Nat) : Tree :=
  .named "plain_scalar" start stop
    [.named (scalarKind (cs.extract start stop).toList) start stop []]

/-- Where the first line of a plain scalar at `i` ends, less the blanks at its end:
before a colon with a gap after it, a comment, a line break, and inside flow notation
before its marks. `last` is the place after the last character that counts. -/
def plainLine (cs : Array Char) (flow : Bool) (i last : Nat) : Nat → Nat
  | 0 => last
  | fuel + 1 =>
    match cs[i]? with
    | none => last
    | some c =>
      if isBreak c then last
      else if isBlankChar c then plainLine cs flow (i + 1) last fuel
      else if c == '#' && i > 0 && isGapAt cs (i - 1) then last
      else if flow && isFlowMark c then last
      else if c == ':'
          && (isGapAt cs (i + 1) || (flow && ((cs[i + 1]?).map isFlowMark).getD false)) then
        last
      else plainLine cs flow (i + 1) (i + 1) fuel

/-- Where a plain scalar ends whose lines so far end at `last`: it goes on over lines
that are indented deeper than `outer` columns, blank lines among them. -/
def plainLines (cs : Array Char) (flow : Bool) (outer : Int) (last : Nat) : Nat → Nat
  | 0 => last
  | fuel + 1 =>
    let stop := skipWhile isBlankChar cs last cs.size
    if stop < cs.size && isBreak ((cs[stop]?).getD ' ') then
      let next := skipWhile (fun c => isBlankChar c || isBreak c) cs stop cs.size
      if next < cs.size && (flow || decide (outer < columnAt cs next)) && !isMarker cs next
          && cs[next]? != some '#' then
        let line := plainLine cs flow next next cs.size
        if line = next then last else plainLines cs flow outer line fuel
      else last
    else last

/-- Whether a plain scalar can start at `i`. -/
def startsPlain (cs : Array Char) (flow : Bool) (i : Nat) : Bool :=
  match cs[i]? with
  | none => false
  | some c =>
    if isBlankChar c || isBreak c then false
    else if c == '-' || c == '?' || c == ':' then
      !isGapAt cs (i + 1) && !(flow && ((cs[i + 1]?).map isFlowMark).getD false)
    else !(isFlowMark c || c == '#' || c == '&' || c == '*' || c == '!' || c == '|' || c == '>'
      || c == '\'' || c == '"' || c == '%' || c == '@' || c.toNat == 0x60)

/-- The end of a name of an anchor or alias that starts at `i`. -/
def nameEnd (cs : Array Char) (i : Nat) : Nat :=
  skipWhile (fun c => !(isBlankChar c || isBreak c || isFlowMark c)) cs i cs.size

/-- The end of a tag that starts at `i`. -/
def tagEnd (cs : Array Char) (i : Nat) : Nat :=
  if cs[i + 1]? == some '<' then
    let stop := skipWhile (fun c => c != '>' && !isBreak c) cs (i + 2) cs.size
    min cs.size (stop + 1)
  else nameEnd cs i

/-- A tag or an anchor at `i`. -/
def property? (cs : Array Char) (i : Nat) : Step Tree :=
  match cs[i]? with
  | some '!' =>
    let stop := tagEnd cs i
    some (.named "tag" i stop [], stop)
  | some '&' =>
    let stop := nameEnd cs (i + 1)
    if stop = i + 1 then none
    else
      some (.named "anchor" i stop [.mark "&" i (i + 1), .named "anchor_name" (i + 1) stop []],
        stop)
  | _ => none

/-- An alias at `i`. -/
def alias? (cs : Array Char) (i : Nat) : Step Tree :=
  let stop := nameEnd cs (i + 1)
  if stop = i + 1 then none
  else some (.named "alias" i stop [.mark "*" i (i + 1), .named "alias_name" (i + 1) stop []], stop)

/-- A quoted scalar at `i`. -/
def quoted? (cs : Array Char) (i : Nat) : Step Tree :=
  match cs[i]? with
  | some '"' =>
    (doubleQuoted cs (i + 1) [] cs.size).map fun (escapes, stop) =>
      (.named "double_quote_scalar" i (stop + 1)
        (.mark "\"" i (i + 1) :: escapes ++ [.mark "\"" stop (stop + 1)]), stop + 1)
  | some '\'' =>
    (singleQuoted cs (i + 1) [] cs.size).map fun (escapes, stop) =>
      (.named "single_quote_scalar" i (stop + 1)
        (.mark "'" i (i + 1) :: escapes ++ [.mark "'" stop (stop + 1)]), stop + 1)
  | _ => none

end ApiLint.Tree.OfYaml
