import ApiLint.Tree.Outline
import ApiLint.Validation

/-!
# Errors as trees

An error is drawn as a tree: the first line of its message, the details below it, and below
a detail those of its alternatives.
-/

namespace ApiLint

namespace Detail

def shownPath (detail : Detail) : String :=
  if detail.path.display.isEmpty then "/" else String.ofList detail.path.display

def line (detail : Detail) : String :=
  s!"[{detail.code}] {detail.message} at {detail.shownPath}"

mutual

/-- A detail with its alternatives below it. -/
def outline : Detail → Outline
  | .single code message path => .item (line (.single code message path)) []
  | .oneOf code message path inner =>
    .item (line (.oneOf code message path inner)) (outlines inner)

/-- Several details, each with its alternatives below it. -/
def outlines : List Detail → List Outline
  | [] => []
  | detail :: rest => outline detail :: outlines rest

end

end Detail

namespace ValidationError

def topLine : ValidationError → String
  | .invalid message _ => String.ofList (Text.firstLine message.toList)
  | error => error.message

/-- An error with its details below it. -/
def outline (error : ValidationError) : Outline :=
  .item error.topLine (Detail.outlines (error.details?.getD []))

end ValidationError

end ApiLint
