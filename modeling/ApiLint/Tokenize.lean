import ApiLint.Grammar
import ApiLint.Keys
import ApiLint.Tree.Json
import ApiLint.Tree.Yaml

/-!
# Tokenized documents

A document is cut into lines and every line into tokens: the names of its keys,
their quotes, and plain tokens for all the rest. Joined together, the tokens of a
line are the line, so nothing of the text is lost.

A key may be listed twice, since the key of a pair may itself hold pairs; what
starts before the place already reached is passed over.

Cutting fails at a key that does not lie on characters of the text. The keys of a
tree never do that, so there is a tokenized document for every tree over a text, and
tokenizing a text, which has a tree in either grammar, never fails.
-/

namespace ApiLint

/-- A document cut into tokens, line by line. -/
structure TokenizedDocument where
  grammar : Grammar
  lines : List TokenLine
  deriving DecidableEq, Repr, Inhabited

namespace TokenizedDocument

/-- What is left of a row of keys, and the tokens up to the byte reached. -/
structure LineState where
  keys : List KeySpan
  reached : Nat
  tokens : List Token

/-- The text from one byte to another as a plain token; no token if there is none. -/
def plainTokens? (grammar : Grammar) (text : Text) (start stop : Nat) : Option (List Token) :=
  if start < stop then (text.bytes? start stop).map fun piece => [grammar.plainToken piece]
  else some []

def nameTokens? (grammar : Grammar) (text : Text) (key : KeySpan) : Option (List Token) := do
  let name ← key.name.cut? text
  if key.isQuoted then
    let opening ← text.bytes? key.outer.start key.name.start
    let closing ← text.bytes? key.name.stop key.outer.stop
    return [grammar.quoteToken opening, grammar.keyToken name true, grammar.quoteToken closing]
  else return [grammar.keyToken name false]

/-- Takes the keys up to a row, in order, from the byte reached on. Those of earlier
rows, and those that start before the byte reached, give no tokens. -/
def takeKeys? (grammar : Grammar) (text : Text) (row reached : Nat) :
    List KeySpan → Option LineState
  | [] => some ⟨[], reached, []⟩
  | key :: rest =>
    if key.row ≤ row then
      if key.row < row ∨ key.outer.start < reached then takeKeys? grammar text row reached rest
      else do
        let plain ← plainTokens? grammar text reached key.outer.start
        let name ← nameTokens? grammar text key
        let state ← takeKeys? grammar text row key.outer.stop rest
        return { state with tokens := plain ++ name ++ state.tokens }
    else some ⟨key :: rest, reached, []⟩

/-- The tokens of the lines from a row on, the first of them starting at byte `start`. -/
def cutLines? (grammar : Grammar) (text : Text) (row start : Nat) (keys : List KeySpan) :
    List Text → Option (List TokenLine)
  | [] => some []
  | line :: more => do
    let stop := start + line.byteLength
    let state ← takeKeys? grammar text row start keys
    let plain ← plainTokens? grammar text state.reached stop
    let others ← cutLines? grammar text (row + 1) (stop + 1) state.keys more
    return (state.tokens ++ plain) :: others

def splitLines? (text : Text) (grammar : Grammar) (keys : List KeySpan) :
    Option (List TokenLine) :=
  cutLines? grammar text 0 0 keys text.lines

/-- A text cut at the keys of a tree over it. -/
def ofTree? (text : Text) (grammar : Grammar) (tree : Tree) : Option TokenizedDocument :=
  (splitLines? text grammar (tree.keySpans text)).map fun lines => ⟨grammar, lines⟩

def source (document : TokenizedDocument) : TokenSource := .ofLines document.lines

end TokenizedDocument

def Grammar.tree? : Grammar → Text → Option Tree
  | .yaml, text => Tree.ofYaml? text
  | .json, text => Tree.ofJson? text

/-- The tree of a text in a grammar; a text that is not well-formed has no nodes but
the root. -/
def Grammar.tree (grammar : Grammar) (text : Text) : Tree :=
  (grammar.tree? text).getD (.named "stream" 0 text.byteLength [])

def Text.tokenize (text : Text) (grammar : Grammar) : TokenizedDocument :=
  (TokenizedDocument.ofTree? text grammar (grammar.tree text)).getD ⟨grammar, []⟩

end ApiLint
