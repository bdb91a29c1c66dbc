import ApiLint.Text.Blank
import ApiLint.Text.Digit

/-!
# Does a text look like an API description?

Checking is worth its cost only for texts with a version entry: the key
`swagger`, perhaps closed by a quote, a colon, and a quoted version of two
numbers such as `"2.0"`. White space may stand on either side of the colon. The
entry may stand anywhere in the text.

White space and digits are those of Unicode. No text of eight characters or
fewer is considered; a version entry is longer than that anyway.
-/

namespace ApiLint.Eligibility

/-- Texts up to this long are never considered. -/
def shortest : Nat := 8

def afterQuote? : Text → Option Text
  | '"' :: rest => some rest
  | '\'' :: rest => some rest
  | _ => none

def afterDigits? : Text → Option Text
  | [] => none
  | c :: rest => if isDecimalDigit c then some (rest.dropWhile isDecimalDigit) else none

def afterChar? (wanted : Char) : Text → Option Text
  | [] => none
  | c :: rest => if c = wanted then some rest else none

/-- The text after a double quote, or the text itself if none stands there. -/
def afterOptionalQuote : Text → Text
  | '"' :: rest => rest
  | text => text

/-- Whether a version entry stands at the front of the text. -/
def startsWithVersion (text : Text) : Bool :=
  let rest? : Option Text := do
    let rest ← Text.after? "swagger".toList text
    let rest ← afterChar? ':' ((afterOptionalQuote rest).dropWhile isBlank)
    let rest ← afterQuote? (rest.dropWhile isBlank)
    let rest ← afterDigits? rest
    let rest ← afterChar? '.' rest
    let rest ← afterDigits? rest
    afterQuote? rest
  rest?.isSome

/-- Whether a version entry stands anywhere in the text. -/
def hasVersion : Text → Bool
  | [] => false
  | c :: rest => startsWithVersion (c :: rest) || hasVersion rest

end ApiLint.Eligibility

namespace ApiLint

/-- Whether the text looks like an API description that is worth checking. -/
def Text.isEligible (text : Text) : Bool :=
  decide (Eligibility.shortest < text.length) && Eligibility.hasVersion text

end ApiLint
