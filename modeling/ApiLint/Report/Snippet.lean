import ApiLint.Report
import ApiLint.Text.Blank
import ApiLint.Text.Width

/-!
# Diagnostics over an excerpt of the source

A diagnostic is printed with the lines of the source that its range covers, in colour.
A range within one line is underlined, and an arrow leads from its middle to the first line
of the message. Of a range over several lines the first and the last are shown, tied by a
bar on the left.

In an excerpt every line break of Unicode ends a line, not only the line feed. Characters
are laid out in cells: a tab reaches to the next multiple of four, any other blank takes one
column, and a wide character two.
-/

namespace ApiLint.Report

/-! ## Colours -/

/-- The colours of an excerpt. -/
inductive Ink where
  | error
  | margin
  | skipped
  | plain
  deriving DecidableEq, Repr

/-- The number of a colour in a terminal's control sequence. -/
def Ink.code : Ink → String
  | .error => "31"
  | .margin => "38;5;246"
  | .skipped => "38;5;240"
  | .plain => "38;5;249"

/-- The character that starts a control sequence. -/
def escapeChar : Char := Char.ofNat 0x1B

def Ink.paint (ink : Ink) (text : Text) : Text :=
  escapeChar :: '[' :: ink.code.toList ++ 'm' :: text ++ escapeChar :: "[0m".toList

/-- A character several times, each in a colour. -/
def Ink.repeat (ink : Ink) (n : Nat) (c : Char) : Text :=
  (List.replicate n c).flatMap fun c => ink.paint [c]

def blanks (n : Nat) : Text := List.replicate n ' '

/-! ## Lines of an excerpt -/

def isLineEnd (c : Char) : Bool := [0xA, 0xB, 0xC, 0xD, 0x85, 0x2028, 0x2029].contains c.toNat

/-- A line of the source, with the character that ends it: its number and its first offset,
both from 0. -/
structure SourceLine where
  number : Nat
  start : Nat
  text : Text
  deriving Repr, Inhabited

/-- The lines of a text, each with its end; the characters of the line so far in reverse. -/
def cutLines (line : Text) : Text → List Text
  | [] => if line.isEmpty then [] else [line.reverse]
  | '\r' :: '\n' :: rest => ('\n' :: '\r' :: line).reverse :: cutLines [] rest
  | c :: rest =>
    if isLineEnd c then (c :: line).reverse :: cutLines [] rest else cutLines (c :: line) rest

/-- Lines with their numbers and offsets, the first being `number` at `start`. -/
def numberLines (number start : Nat) : List Text → List SourceLine
  | [] => []
  | line :: rest => ⟨number, start, line⟩ :: numberLines (number + 1) (start + line.length) rest

def sourceLines (text : Text) : List SourceLine :=
  if text.isEmpty then [⟨0, 0, []⟩] else numberLines 0 0 (cutLines [] text)

/-- The line that an offset stands on: the last one that does not start after it. -/
def lineAt (lines : List SourceLine) (offset : Nat) : SourceLine :=
  ((lines.filter fun line => line.start ≤ offset).getLast?).getD default

/-- The characters of a line without the blanks at its end. -/
def SourceLine.shown (line : SourceLine) : Text :=
  Text.trimEnd line.text

/-! ## Cells -/

/-- The distance of the places that tabs reach to. -/
def tabStop : Nat := 4

def cellColumns (index : Nat) (c : Char) : Nat :=
  if c = '\t' then tabStop - index % tabStop
  else if isBlank c then 1
  else columnsOf c

/-- The number of columns of the character at an index of a line; one past its end. -/
def SourceLine.columnsAt (line : SourceLine) (index : Nat) : Nat :=
  match line.shown[index]? with
  | some c => cellColumns index c
  | none => 1

def SourceLine.paint (line : SourceLine) (span : CharSpan) : Text :=
  line.shown.zipIdx.flatMap fun (c, index) =>
    let offset := line.start + index
    let ink := if span.start ≤ offset ∧ offset < span.stop then Ink.error else Ink.plain
    if isBlank c then ink.repeat (cellColumns index c) ' ' else ink.paint [c]

/-! ## Rows -/

/-- The number of digits of a line number. -/
def digitCount (n : Nat) : Nat := (Nat.toDigits 10 n).length

def numberedMargin (width : Nat) (line : SourceLine) : Text :=
  let number := Nat.toDigits 10 (line.number + 1)
  ' ' :: Ink.margin.paint (blanks (width - number.length) ++ number ++ [' ', '│']) ++ [' ']

def emptyMargin (width : Nat) (bar : Char) : Text :=
  ' ' :: Ink.skipped.paint (blanks (width + 1) ++ [bar]) ++ [' ']

def labelOf (message : String) : Text := Text.firstLine message.toList

/-- The row under a line with a span on it: a stroke under the span and the start of the
arrow at `column`. -/
def underlineRow (line : SourceLine) (span : CharSpan) (column length : Nat) : Text :=
  (List.range length).flatMap fun index =>
    let columns := line.columnsAt index
    let offset := line.start + index
    let isUnder := decide (span.start ≤ offset ∧ offset < span.stop)
    let cell (head tail : Char) : Text :=
      if columns = 0 then [] else Ink.error.paint [head] ++ Ink.error.repeat (columns - 1) tail
    if index = column then (if isUnder then cell '┬' '─' else cell '│' ' ')
    else if isUnder then cell '─' '─'
    else blanks columns

/-- The row of the arrow that leaves a line at `column`. -/
def arrowRow (line : SourceLine) (column length : Nat) : Text :=
  (List.range length).flatMap fun index =>
    let columns := line.columnsAt index
    if index < column then blanks columns
    else if columns = 0 then []
    else
      Ink.error.paint [if index = column then '╰' else '─'] ++ Ink.error.repeat (columns - 1) '─'

def inlineRows (width : Nat) (line : SourceLine) (span : CharSpan) (label : Text) : List Text :=
  let column := (span.start + span.stop) / 2 - line.start
  let length := span.stop - line.start + 2
  [numberedMargin width line ++ line.paint span,
    emptyMargin width '│' ++ underlineRow line span column length,
    emptyMargin width '│' ++ arrowRow line column length ++ ' ' :: label]

/-- The rows of a span that starts on one line and ends on another. -/
def multilineRows (width : Nat) (first last : SourceLine) (span : CharSpan) (label : Text) :
    List Text :=
  let pointer (corner : Char) : Text :=
    [corner, '─', '▶', ' '].flatMap fun c => Ink.error.paint [c]
  let gap :=
    if first.number + 1 < last.number then
      [emptyMargin width '┆' ++ Ink.error.paint ['┆'] ++ blanks 3]
    else []
  let columns :=
    (List.range (last.text.length + 2)).foldr (fun column held => last.columnsAt column + held) 0
  [numberedMargin width first ++ pointer '╭' ++ first.paint span] ++ gap
    ++ [numberedMargin width last ++ pointer '├' ++ last.paint span,
      emptyMargin width '│' ++ Ink.error.paint ['│'] ++ blanks (columns + 3),
      emptyMargin width '│' ++ Ink.error.paint ['╰'] ++ Ink.error.repeat (columns + 3) '─'
        ++ ' ' :: label]

def placeRow (width : Nat) (fileName : String) (line : SourceLine) (offset : Nat) : Text :=
  let place := s!" {fileName}:{line.number + 1}:{offset - line.start + 1} "
  blanks (width + 2) ++ Ink.margin.paint ['╭'] ++ Ink.margin.paint ['─'] ++ Ink.margin.paint ['[']
    ++ place.toList ++ Ink.margin.paint [']']

/-- The rows of a diagnostic over an excerpt of its source. -/
def snippetRows (text : Text) (fileName : String) (diagnostic : Diagnostic) : List Text :=
  let span := diagnostic.range.toCharSpan text
  let lines := sourceLines text
  let first := lineAt lines span.start
  let last := lineAt lines (max (span.stop - 1) span.start)
  let width := digitCount (last.number + 1)
  let label := labelOf diagnostic.message
  let body :=
    if first.number = last.number then inlineRows width first span label
    else multilineRows width first last span label
  [Ink.error.paint "Error:".toList ++ ' ' :: diagnostic.message.toList,
    placeRow width fileName first span.start,
    blanks (width + 2) ++ Ink.margin.paint ['│']] ++ body
    ++ [Ink.margin.paint (List.replicate (width + 2) '─' ++ ['╯'])]

/-- A diagnostic over an excerpt of its source. -/
def snippet (text : Text) (fileName : String) (diagnostic : Diagnostic) : String :=
  String.ofList ((snippetRows text fileName diagnostic).flatMap fun row => row ++ ['\n'])

/-- All diagnostics of a report, one after another. -/
def pretty (report : Report) : String :=
  String.join (report.diagnostics.map (snippet report.text report.fileName))

end ApiLint.Report
