import ApiLint.Text.Bytes

/-!
# Positions and ranges

A position is a line and a column, both from 0, columns counting characters. A
range is half open. A position need not exist in the text it is used with:
`Position.offset` clamps it to the greatest existing position that is not after
it, while `Range.slice` refuses a range on one line whose columns do not exist.

Texts are stored as bytes, so `Range.slice` first finds the byte that each end
stands at and then cuts there.
-/

namespace ApiLint

/-- A line and a column of a text, counted from 0. -/
structure Position where
  line : Nat
  column : Nat
  deriving DecidableEq, Repr, Inhabited

namespace Position

def origin : Position := ⟨0, 0⟩

/-- Reading order: by line, then by column. -/
def before (p q : Position) : Prop := p.line < q.line ∨ (p.line = q.line ∧ p.column < q.column)

instance : LT Position := ⟨before⟩

instance : LE Position := ⟨fun p q => p = q ∨ p.before q⟩

instance (p q : Position) : Decidable (p < q) :=
  inferInstanceAs (Decidable (_ ∨ _))

instance (p q : Position) : Decidable (p ≤ q) :=
  inferInstanceAs (Decidable (p = q ∨ (p.line < q.line ∨ (p.line = q.line ∧ p.column < q.column))))

/-- Whether the text has this position: its line exists and is wide enough. -/
def ExistsIn (p : Position) (text : Text) : Prop :=
  ∃ line, text.lines[p.line]? = some line ∧ p.column ≤ line.length

/-- The number of characters before the position. A column past the end of its
line counts as that end, a line past the last one as the end of the text. -/
def offset (p : Position) (text : Text) : Nat :=
  match text.lines[p.line]? with
  | some line => (text.lineStart p.line).length + min p.column line.length
  | none => text.length

/-- Positions are shown counted from 1. -/
def display (p : Position) : String := s!"{p.line + 1}:{p.column + 1}"

end Position

/-- The characters from `start` up to, not including, `stop`. -/
structure Range where
  start : Position
  stop : Position
  deriving DecidableEq, Repr, Inhabited

/-- What has offsets from `start` up to, not including, `stop`. -/
structure Span where
  start : Nat
  stop : Nat
  deriving DecidableEq, Repr, Inhabited

/-- A span whose offsets count characters. -/
abbrev CharSpan := Span

/-- A span whose offsets count bytes. -/
abbrev ByteSpan := Span

def CharSpan.cut (span : CharSpan) (text : Text) : Text :=
  (text.take span.stop).drop span.start

/-- The text under the span, if both its ends lie between characters. -/
def ByteSpan.cut? (span : ByteSpan) (text : Text) : Option Text :=
  text.bytes? span.start span.stop

namespace Range

def onLine (line startColumn stopColumn : Nat) : Range :=
  ⟨⟨line, startColumn⟩, ⟨line, stopColumn⟩⟩

/-- From the first character to the end of the last line. -/
def wholeDocument (text : Text) : Range :=
  ⟨.origin, ⟨text.lines.length - 1, text.lastLine.length⟩⟩

/-- The range as character offsets, both ends clamped to the text; a range that
ends before it starts becomes empty at its start. -/
def toCharSpan (range : Range) (text : Text) : CharSpan :=
  let start := range.start.offset text
  ⟨start, max start (range.stop.offset text)⟩

/-- The byte of a line that a column stands at; the last column is the end of the line. -/
def columnByte? (line : Text) (column : Nat) : Option Nat :=
  if column = line.length then some line.byteLength else line.byteOf? column

/-- The text the range covers. Within one line both columns have to exist and be
in order; over several lines both ends are clamped, and there is no answer when
nothing of the text is left after the start. -/
def slice (range : Range) (text : Text) : Option Text :=
  if range.start.line ≠ range.stop.line then do
    let span := range.toCharSpan text
    let start ← text.byteOf? span.start
    let stop := (text.byteOf? span.stop).getD text.byteLength
    text.bytes? start stop
  else do
    let line ← text.lines[range.start.line]?
    let start ← columnByte? line range.start.column
    let stop ← columnByte? line range.stop.column
    line.bytes? start stop

/-- Both ends, counted from 1. -/
def display (range : Range) : String := s!"{range.start.display}-{range.stop.display}"

end Range

end ApiLint
