import ApiLint.Tree
import ApiLint.Token

/-!
# Where the keys are

The keys of a document are found in its tree: every pair has a node in the role of
its key, and the first scalar in there, depth first, spells the name. A name may be
quoted; names that run over lines, and empty ones, are left out.

The tree is walked with a cursor that knows only its node, the way to the first
child, to the next sibling and to the parent, and cannot leave the root. The keys
come out ordered by where they start.
-/

namespace ApiLint

/-- A key on one line: the bytes it covers and, without quotes, those of its name. -/
structure KeySpan where
  row : Nat
  outer : ByteSpan
  name : ByteSpan
  deriving DecidableEq, Repr, Inhabited

namespace KeySpan

def isQuoted (key : KeySpan) : Bool := key.name != key.outer

/-- Whether a piece of text stands between two equal quotes. -/
def inQuotes (piece : Text) : Bool :=
  2 ≤ piece.byteLength
    && ((piece.head? == some '"' && piece.getLast? == some '"')
      || (piece.head? == some '\'' && piece.getLast? == some '\''))

/-- The row of a byte: the number of line feeds before it. -/
def rowOf (text : Text) (offset : Nat) : Nat := (text.takeBytes offset).count '\n'

/-- The key that a scalar over these bytes spells. -/
def ofSpan? (text : Text) (outer : ByteSpan) : Option KeySpan :=
  let row := rowOf text outer.start
  if rowOf text outer.stop ≠ row then none
  else do
    let piece ← outer.cut? text
    let name := if inQuotes piece then ⟨outer.start + 1, outer.stop - 1⟩ else outer
    if name.start < name.stop then some ⟨row, outer, name⟩ else none

end KeySpan

namespace Tree

/-- The kinds of nodes that pair a key with a value. -/
def pairKinds : List String := ["block_mapping_pair", "flow_pair", "pair"]

def isScalarKind (kind : String) : Bool := kind == "string" || kind.endsWith "_scalar"

mutual

/-- The first scalar of a tree, depth first, tags and anchors passed over. -/
def scalar? : Tree → Option Tree
  | .node label children =>
    if isScalarKind label.kind then some (.node label children) else scalarIn? children

/-- The first scalar of several trees, unnamed ones passed over. -/
def scalarIn? : List Tree → Option Tree
  | [] => none
  | tree :: rest =>
    match if tree.label.named then scalar? tree else none with
    | some found => some found
    | none => scalarIn? rest

end

/-- The key that a node contributes: none unless it is a pair. -/
def keySpan? (text : Text) (tree : Tree) : Option KeySpan :=
  if pairKinds.contains tree.kind then do
    let key ← tree.childIn? .key
    let scalar ← key.scalar?
    KeySpan.ofSpan? text scalar.span
  else none

/-- A place in a tree: a node, its later siblings, and on the way up to the root
the later siblings of each node above it. -/
structure Cursor where
  node : Tree
  later : List Tree
  above : List (Tree × List Tree)
  deriving Inhabited

namespace Cursor

def atRoot (tree : Tree) : Cursor := ⟨tree, [], []⟩

def firstChild? (cursor : Cursor) : Option Cursor :=
  match cursor.node.children with
  | [] => none
  | child :: rest => some ⟨child, rest, (cursor.node, cursor.later) :: cursor.above⟩

def nextSibling? (cursor : Cursor) : Option Cursor :=
  match cursor.above, cursor.later with
  | _ :: _, sibling :: rest => some ⟨sibling, rest, cursor.above⟩
  | _, _ => none

def parent? (cursor : Cursor) : Option Cursor :=
  match cursor.above with
  | [] => none
  | (node, later) :: above => some ⟨node, later, above⟩

/-- The next sibling of the node or of the nearest node above that has one; `climbs`
bounds the way up. -/
def advance? (cursor : Cursor) : Nat → Option Cursor
  | 0 => none
  | climbs + 1 =>
    match cursor.nextSibling? with
    | some next => some next
    | none =>
      match cursor.parent? with
      | some parent => parent.advance? climbs
      | none => none

/-- The node after this one in preorder: the first child, or else the next node that
does not lie below. -/
def next? (cursor : Cursor) : Option Cursor :=
  match cursor.firstChild? with
  | some child => some child
  | none => cursor.advance? (cursor.above.length + 1)

/-- The nodes from the cursor on, at most `steps` of them. -/
def walk (cursor : Cursor) : Nat → List Tree
  | 0 => []
  | steps + 1 =>
    cursor.node :: match cursor.next? with
      | some next => next.walk steps
      | none => []

end Cursor

mutual

def size : Tree → Nat
  | .node _ children => sizeAll children + 1

/-- The number of nodes of several trees. -/
def sizeAll : List Tree → Nat
  | [] => 0
  | tree :: rest => size tree + sizeAll rest

end

/-- The nodes of a tree in the order the cursor visits them. -/
def visited (tree : Tree) : List Tree := (Cursor.atRoot tree).walk tree.size

/-- The keys of a document, ordered by where they start; keys that start at the same
place keep the order of the walk. -/
def keySpans (text : Text) (tree : Tree) : List KeySpan :=
  (tree.visited.filterMap (keySpan? text)).mergeSort fun a b =>
    decide (a.outer.start ≤ b.outer.start)

end Tree

end ApiLint
