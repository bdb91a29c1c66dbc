import ApiLint.Path

/-!
# What a validation can answer

A document is accepted, or there is an error. Only the error of an invalid document has a
list of details; each names a part of the document by its path. A detail that stands for a
choice of several schemas may hold the details of each.
-/

namespace ApiLint

/-- What is asked of a validator. -/
structure ValidationOptions where
  schema : Bool := true
  spec : Bool := true
  deriving DecidableEq, Repr, Inhabited

/-- Only what a schema says is checked. -/
def ValidationOptions.structural : ValidationOptions := ⟨true, false⟩

/-- One thing that is wrong with a document. -/
inductive Detail where
  | single (code message : String) (path : Path)
  | oneOf (code message : String) (path : Path) (inner : List Detail)
  deriving Repr, Inhabited

namespace Detail

/-- The code of a choice of several schemas that all reject a part of the document. -/
def choiceCode : String := "ONE_OF_MISSING"

def ofChoice (message : String) (path : Path) (inner : List Detail) : Detail :=
  .oneOf choiceCode message path inner

def code : Detail → String
  | .single code _ _ => code
  | .oneOf code _ _ _ => code

def message : Detail → String
  | .single _ message _ => message
  | .oneOf _ message _ _ => message

/-- The part of the document that a detail is about. -/
def path : Detail → Path
  | .single _ _ path => path
  | .oneOf _ _ path _ => path

/-- The details of the alternatives of a choice. -/
def inner : Detail → List Detail
  | .single .. => []
  | .oneOf _ _ _ inner => inner

end Detail

/-- Why a document is not accepted. -/
inductive ValidationError where
  | unreadable (path message : String)
  | malformed (path message : String)
  | badSchema (message : String)
  | invalid (message : String) (details : List Detail)
  deriving Repr, Inhabited

namespace ValidationError

def message : ValidationError → String
  | .unreadable path message => "Error opening file \"" ++ path ++ "\": " ++ message
  | .malformed path message => s!"Error parsing {path}: {message}"
  | .badSchema message => s!"Invalid Swagger schema: {message}"
  | .invalid message _ => message

/-- The details of an invalid document; other errors have no list of them. -/
def details? : ValidationError → Option (List Detail)
  | .invalid _ details => some details
  | _ => none

end ValidationError

/-- The answer of a validator. -/
abbrev Verdict := Except ValidationError Unit

end ApiLint
