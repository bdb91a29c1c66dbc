import ApiLint.Text.Hidden
import ApiLint.Text.Lines

/-!
# Texts in quotes

A text is shown to a reader between double quotes. The quote and the backslash get a
backslash, the commonest control characters a letter, and every other character that
cannot be told by its look its number.
-/

namespace ApiLint.Text

def quotedChar (c : Char) : Text :=
  if c = '"' ∨ c = '\\' then ['\\', c]
  else if c = '\n' then ['\\', 'n']
  else if c = '\r' then ['\\', 'r']
  else if c = '\t' then ['\\', 't']
  else if c.toNat = 0 then ['\\', '0']
  else if isHidden c then ['\\', 'u', '{'] ++ Nat.toDigits 16 c.toNat ++ ['}']
  else [c]

def quoted (text : Text) : Text := '"' :: text.flatMap quotedChar ++ ['"']

end ApiLint.Text
