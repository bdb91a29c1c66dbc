import ApiLint.Path
import ApiLint.Position
import ApiLint.Token

/-!
# Finding a path in the source

A path is found by its key names alone. The key tokens of the source are read
in order, line by line and left to right, and each one that equals the next
name still wanted is taken; the path lies where its last name was taken. The
first occurrence always wins, so a name that also stands somewhere earlier can
be taken there.

Lines are read from 0 up to and including the reported line count, and reading
ends early at the first line that the source does not have. They are asked for one
after another, and asking may have an effect: `Path.resolveBy` works in whatever
monad the lines come from, `Path.resolve?` on a source that just knows them.
-/

namespace ApiLint.Resolve

/-- What one stretch of tokens made of the names wanted: the last of them was
taken at these columns, or these names are still wanted. -/
inductive Progress where
  | found (startColumn stopColumn : Nat)
  | wanting (names : List Text)
  deriving DecidableEq, Repr

/-- Takes names on one line, the first token of which stands at `column`. -/
def scanLine (names : List Text) (column : Nat) : TokenLine → Progress
  | [] => .wanting names
  | token :: rest =>
    let next := column + token.width
    match names with
    | [] => .wanting []
    | name :: others =>
      if token.isKey ∧ token.value = name then
        if others.isEmpty then .found column next else scanLine others next rest
      else scanLine (name :: others) next rest

/-- Takes names on `count` lines from line `number` on. -/
def scanLines {m : Type → Type} [Monad m] (line? : Nat → m (Option TokenLine))
    (names : List Text) (number : Nat) : Nat → m (Option Range)
  | 0 => pure none
  | count + 1 => do
    match ← line? number with
    | none => pure none
    | some line =>
      match scanLine names 0 line with
      | .found startColumn stopColumn => pure (some (.onLine number startColumn stopColumn))
      | .wanting names => scanLines line? names (number + 1) count

end ApiLint.Resolve

namespace ApiLint

/-- The range of the token that the last name of the path is taken at; none when
the path has no names or some name is not found. A path without names asks for
nothing. -/
def Path.resolveBy {m : Type → Type} [Monad m] (path : Path) (lineCount : m Nat)
    (line? : Nat → m (Option TokenLine)) : m (Option Range) :=
  match path.keys with
  | [] => pure none
  | names => do
    let count ← lineCount
    Resolve.scanLines line? names 0 (count + 1)

def Path.resolve? (path : Path) (source : TokenSource) : Option Range :=
  Id.run (path.resolveBy (pure source.lineCount) fun number => pure (source.line? number))

end ApiLint
