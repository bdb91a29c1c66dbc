import ApiLint.Text.Lines

/-!
# Pointers

A pointer names a part of a JSON value by the names and indices that lead to it. Written
out, each step follows a slash; a tilde in a step is written `~0` and a slash `~1`.
-/

namespace ApiLint

/-- The steps to a part of a JSON value, an index in decimal digits. -/
abbrev Pointer := List Text

namespace Pointer

def escape (step : Text) : Text :=
  step.flatMap fun c => if c = '~' then ['~', '0'] else if c = '/' then ['~', '1'] else [c]

def render (pointer : Pointer) : Text := pointer.flatMap fun step => '/' :: escape step

def name (pointer : Pointer) (step : String) : Pointer := pointer ++ [step.toList]

def index (pointer : Pointer) (n : Nat) : Pointer := pointer ++ [Nat.toDigits 10 n]

end Pointer

end ApiLint
