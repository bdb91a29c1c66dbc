import ApiLint.Tree

/-!
# Drawing trees

A tree of labels is drawn with one item a line, each line led by strokes that tie
an item to its parent. A concrete tree is outlined in the same way, each node by
its kind and its place, with rows and columns from 0 and columns counting UTF-8
bytes. On request a node also shows the start of its text, and nodes whose bytes
are marked are flagged as keys.
-/

namespace ApiLint

/-- A tree of texts to be drawn. -/
inductive Outline where
  | item (label : String) (children : List Outline)
  deriving Repr, Inhabited

namespace Outline

/-- The text of the topmost item. -/
def label : Outline → String
  | .item label _ => label

/-- The items directly below. -/
def children : Outline → List Outline
  | .item _ children => children

mutual

/-- The lines of an item: the first led by `own`, those below it by `below`. -/
def linesAt (own below : String) : Outline → List String
  | .item label children => (own ++ label) :: childLines below children

/-- The lines of the items below one whose lines are led by `lead`. -/
def childLines (lead : String) : List Outline → List String
  | [] => []
  | [last] => linesAt (lead ++ "└─ ") (lead ++ "   ") last
  | child :: next :: more =>
    linesAt (lead ++ "├─ ") (lead ++ "│  ") child ++ childLines lead (next :: more)

end

/-- The lines of the drawing, one for each item. -/
def lines (outline : Outline) : List String := linesAt "" "" outline

/-- The drawing, every line closed by a line break. -/
def draw (outline : Outline) : String :=
  String.join (outline.lines.map fun line => line ++ "\n")

end Outline

namespace Tree

/-- What an outline of a tree shows beside kinds and places. -/
structure OutlineStyle where
  showText : Bool
  marked : List ByteSpan

/-- How many characters of a node's text are shown. -/
def previewLength : Nat := 40

/-- The start of a text between quotes, with line breaks written as escapes. -/
def preview (text : Text) : String :=
  let shown := text.take previewLength
  let dots := if Text.byteLength shown < Text.byteLength text then "...".toList else []
  let escaped := (shown ++ dots).flatMap fun c => if c = '\n' then ['\\', 'n'] else [c]
  String.ofList (' ' :: '"' :: escaped ++ ['"'])

/-- Row and column of a byte offset, the column in bytes. -/
def place (text : Text) (offset : Nat) : String :=
  let lines := Text.lines (text.takeBytes offset)
  s!"{lines.length - 1}:{Text.byteLength (lines.getLastD [])}"

def describe (text : Text) (style : OutlineStyle) (label : Label) : String :=
  let place := s!"({label.kind} {place text label.span.start}..{place text label.span.stop})"
  let shown := if style.showText then preview ((ByteSpan.cut? label.span text).getD []) else ""
  let flag := if style.marked.contains label.span then " <-- key" else ""
  place ++ shown ++ flag

mutual

def outline (text : Text) (style : OutlineStyle) : Tree → Outline
  | .node label children => .item (describe text style label) (outlineAll text style children)

/-- The outlines of several trees over their text. -/
def outlineAll (text : Text) (style : OutlineStyle) : List Tree → List Outline
  | [] => []
  | tree :: rest => outline text style tree :: outlineAll text style rest

end

end Tree

end ApiLint
