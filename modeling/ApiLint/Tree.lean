import ApiLint.Position

/-!
# Concrete trees

A tree keeps all of a document's notation: besides the named nodes there is an
anonymous node for every bracket, comma and quote. A node says which bytes it
covers and, when its parent tells children apart by role, which role it has.
White space belongs to no node of its own.

The readers of the two notations place nodes by characters; `inBytes` turns what
they have read into a tree over bytes.
-/

namespace ApiLint

/-- The role of a node inside a key-value pair. -/
inductive Field where
  | key
  | value
  deriving DecidableEq, Repr, Inhabited

/-- What a node is: its kind, whether that is a name or the characters themselves,
its role in its parent, and the bytes it covers. -/
structure Label where
  kind : String
  named : Bool
  field? : Option Field
  span : ByteSpan
  deriving DecidableEq, Repr, Inhabited

/-- A node and the nodes below it, in the order of the text. -/
inductive Tree where
  | node (label : Label) (children : List Tree)
  deriving Repr, Inhabited

namespace Tree

def label : Tree → Label
  | .node label _ => label

/-- The trees directly below the root. -/
def children : Tree → List Tree
  | .node _ children => children

def kind (tree : Tree) : String := tree.label.kind

/-- The bytes that the root covers. -/
def span (tree : Tree) : ByteSpan := tree.label.span

def childIn? (tree : Tree) (field : Field) : Option Tree :=
  tree.children.find? fun child => child.label.field? == some field

def withField (tree : Tree) (field : Field) : Tree :=
  match tree with
  | .node label children => .node { label with field? := some field } children

/-- A named node from `start` up to `stop`. -/
def named (kind : String) (start stop : Nat) (children : List Tree) : Tree :=
  .node ⟨kind, true, none, ⟨start, stop⟩⟩ children

/-- An anonymous node: a piece of notation that stands for itself. -/
def mark (kind : String) (start stop : Nat) : Tree :=
  .node ⟨kind, false, none, ⟨start, stop⟩⟩ []

/-- Where the first tree starts; `default` without any. -/
def firstStart (trees : List Tree) (default : Nat) : Nat :=
  (trees.head?.map fun tree => tree.span.start).getD default

/-- Where the last tree ends; `default` without any. -/
def lastStop (trees : List Tree) (default : Nat) : Nat :=
  (trees.getLast?.map fun tree => tree.span.stop).getD default

mutual

def mapOffsets (f : Nat → Nat) : Tree → Tree
  | .node label children =>
    .node { label with span := ⟨f label.span.start, f label.span.stop⟩ } (mapOffsetsAll f children)

/-- Several trees with every offset replaced. -/
def mapOffsetsAll (f : Nat → Nat) : List Tree → List Tree
  | [] => []
  | tree :: rest => mapOffsets f tree :: mapOffsetsAll f rest

end

/-- A tree whose offsets count the characters of a text, with offsets that count bytes. -/
def inBytes (text : Text) (tree : Tree) : Tree :=
  let offsets := text.byteOffsets
  tree.mapOffsets fun n => offsets.getD n text.byteLength

mutual

/-- All nodes, each before the nodes below it. -/
def preorder : Tree → List Tree
  | .node label children => .node label children :: preorderAll children

/-- All nodes of several trees, tree by tree. -/
def preorderAll : List Tree → List Tree
  | [] => []
  | tree :: rest => preorder tree ++ preorderAll rest

end

end Tree

end ApiLint
