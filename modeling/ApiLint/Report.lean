import ApiLint.Diagnostic

/-!
# Reports

A report holds the diagnostics of one file together with the text they point into.
-/

namespace ApiLint

/-- The diagnostics of a file, with its text. -/
structure Report where
  diagnostics : List Diagnostic
  text : Text
  fileName : String
  deriving Repr, Inhabited

namespace Report

/-- The number of errors; every diagnostic is one. -/
def errorCount (report : Report) : Nat := report.diagnostics.length

/-- Whether there are no errors. -/
def isValid (report : Report) : Bool := report.diagnostics.isEmpty

end Report

end ApiLint
