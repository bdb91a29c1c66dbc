import ApiLint.FileName
import ApiLint.Resolve
import ApiLint.Validation

/-!
# Diagnostics

A diagnostic is a message about a range of a file. An error without details is about the
whole document; every detail is about the range that its path is found at, or about the
whole document if it is not found. A choice with alternatives gives a diagnostic for each of
them instead of its own.

Looking for a path may have an effect, so diagnostics are made in the monad of `locate`.
-/

namespace ApiLint

/-- A message about a range of a file. -/
structure Diagnostic where
  message : String
  filePath : FileName
  range : Range
  deriving DecidableEq, Repr, Inhabited

def Diagnostic.severity : String := "Error"

/-- The details that get a diagnostic in place of this one. -/
def Detail.shown (detail : Detail) : List Detail :=
  match detail with
  | .oneOf _ _ _ (first :: more) => first :: more
  | _ => [detail]

def Detail.diagnosticBy {m : Type → Type} [Monad m] (locate : Path → m (Option Range))
    (filePath : FileName) (text : Text) (detail : Detail) : m Diagnostic := do
  let range? ← locate detail.path
  return ⟨detail.message, filePath, range?.getD (.wholeDocument text)⟩

def ValidationError.diagnosticsBy {m : Type → Type} [Monad m] (locate : Path → m (Option Range))
    (error : ValidationError) (filePath : FileName) (text : Text) : m (List Diagnostic) :=
  match error.details? with
  | none => pure [⟨error.message, filePath, .wholeDocument text⟩]
  | some details =>
    (details.flatMap Detail.shown).mapM (Detail.diagnosticBy locate filePath text)

def ValidationError.diagnostics (error : ValidationError) (filePath : FileName) (text : Text)
    (source : TokenSource) : List Diagnostic :=
  Id.run (error.diagnosticsBy (fun path => pure (path.resolve? source)) filePath text)

end ApiLint
