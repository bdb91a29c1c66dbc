import ApiLint.Text.Lines

/-!
# White space

The characters with the Unicode property `White_Space`, and trimming by them.
-/

namespace ApiLint

/-- Whether the character has the Unicode property `White_Space`. -/
def isBlank (c : Char) : Bool :=
  let n := c.toNat
  (9 ≤ n && n ≤ 13) || n == 0x20 || n == 0x85 || n == 0xA0 || n == 0x1680
    || (0x2000 ≤ n && n ≤ 0x200A) || n == 0x2028 || n == 0x2029 || n == 0x202F
    || n == 0x205F || n == 0x3000

namespace Text

/-- The text without the white space at its front. -/
def trimStart (text : Text) : Text := text.dropWhile isBlank

/-- The text without the white space at its back. -/
def trimEnd (text : Text) : Text := (text.reverse.dropWhile isBlank).reverse

/-- The text without the white space at either end. -/
def trim (text : Text) : Text := trimEnd (trimStart text)

end Text

end ApiLint
