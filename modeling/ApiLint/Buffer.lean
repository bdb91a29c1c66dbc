import ApiLint.Eligibility
import ApiLint.Resolve
import ApiLint.Tokenize

/-!
# Open documents

A buffer is a document that is being edited: its path, its text, and a grammar if one was
chosen. Its tokens are kept once they have been asked for, and dropped when the text
changes. Since asking may fill the store of tokens, queries answer with the buffer after
them as well.

There are tokens for every text. A parser gives no tree only if its grammar does not suit it,
or if it is stopped before it is done; the two grammars are built in, and nothing stops a
parser here. A text that is not well-formed has a tree all the same.
-/

namespace ApiLint

/-- A document that is being edited. -/
structure Buffer where
  path : FileName
  text : Text
  chosen? : Option Grammar
  cached? : Option TokenizedDocument
  deriving Repr, Inhabited

namespace Buffer

/-- A buffer with a text that nothing has been asked about. -/
def new (path : FileName) (text : Text) : Buffer := ⟨path, text, none, none⟩

def withGrammar (buffer : Buffer) (grammar : Grammar) : Buffer :=
  { buffer with chosen? := some grammar }

def opened (path : FileName) (text : Text) : Option Grammar → Buffer
  | none => new path text
  | some grammar => (new path text).withGrammar grammar

def setText (buffer : Buffer) (text : Text) : Buffer :=
  { buffer with text := text, cached? := none }

/-- The chosen grammar, or the one told from path and text. -/
def grammar (buffer : Buffer) : Grammar :=
  buffer.chosen?.getD (Grammar.detect (some buffer.path.shown.toList) buffer.text)

/-- What the tokens of the buffer say, and the buffer after the question: the tokens are
made if there are none, and kept. -/
def withTokens {α : Type} (buffer : Buffer) (ask : TokenizedDocument → α) : α × Buffer :=
  match buffer.cached? with
  | some document => (ask document, buffer)
  | none =>
    let document := buffer.text.tokenize buffer.grammar
    (ask document, { buffer with cached? := some document })

def lineCount (buffer : Buffer) : Nat × Buffer :=
  buffer.withTokens fun document => document.source.lineCount

def tokensForLine (buffer : Buffer) (line : Nat) : Option TokenLine × Buffer :=
  buffer.withTokens fun document => document.source.line? line

def resolve (buffer : Buffer) (path : Path) : Option Range × Buffer :=
  path.resolveBy (m := StateM Buffer) lineCount (fun line buffer => buffer.tokensForLine line)
    buffer

/-- Whether the text looks like an API description. -/
def isEligible (buffer : Buffer) : Bool := buffer.text.isEligible

/-- What may be asked of a buffer, with the kind of answer it has. -/
inductive Request : Type → Type where
  | setText (text : Text) : Request Unit
  | text : Request Text
  | path : Request FileName
  | grammar : Request Grammar
  | isEligible : Request Bool
  | lineCount : Request Nat
  | tokensForLine (line : Nat) : Request (Option TokenLine)
  | resolve (path : Path) : Request (Option Range)

def Request.perform {α : Type} : Request α → Buffer → α × Buffer
  | .setText replacement, buffer => ((), buffer.setText replacement)
  | .text, buffer => (buffer.text, buffer)
  | .path, buffer => (buffer.path, buffer)
  | .grammar, buffer => (buffer.grammar, buffer)
  | .isEligible, buffer => (buffer.isEligible, buffer)
  | .lineCount, buffer => buffer.lineCount
  | .tokensForLine line, buffer => buffer.tokensForLine line
  | .resolve wanted, buffer => buffer.resolve wanted

end Buffer

end ApiLint
