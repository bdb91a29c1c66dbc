import ApiLint.Text.Blank
import ApiLint.Text.Digit
import ApiLint.Text.Hidden

/-!
# Patterns as trees

A pattern is a tree of pieces that each match some stretch of a text. `CharSet` says
which single characters a piece accepts; shorthand classes such as the one for digits
come in two readings, over ASCII or over all of Unicode.
-/

namespace ApiLint

/-- The shorthand classes. -/
inductive Shorthand where
  | digit
  | word
  | space
  deriving DecidableEq, Repr, Inhabited

/-- Whether a character counts as part of a word: letters, digits, what joins them, and
the underscore. Outside ASCII every visible character that is no symbol or punctuation of
the common blocks counts. -/
def isWordChar (c : Char) : Bool :=
  let n := c.toNat
  if n < 0x80 then c.isAlphanum || c == '_'
  else
    isDecimalDigit c || n == 0xAA || n == 0xB5 || n == 0xBA
      || (0xC0 ≤ n && n != 0xD7 && n != 0xF7 && !(0x2000 ≤ n && n ≤ 0x2BFF)
        && !(0x3000 ≤ n && n ≤ 0x3004) && !(0x3008 ≤ n && n ≤ 0x3020)
        && !(0xFF01 ≤ n && n ≤ 0xFF0F) && !(0xFF1A ≤ n && n ≤ 0xFF20)
        && !(0x1F000 ≤ n && n ≤ 0x1FAFF)
        && !(0xE000 ≤ n && n ≤ 0xF8FF))
      || n == 0x200C || n == 0x200D

/-- Whether a shorthand class, read over Unicode, has the character. -/
def Shorthand.holds : Shorthand → Char → Bool
  | .digit, c => isDecimalDigit c
  | .word, c => isWordChar c
  | .space, c => isBlank c

/-- Which characters a piece of a pattern accepts. -/
inductive CharSet where
  | char (c : Char)
  | range (first last : Char)
  | shorthand (kind : Shorthand)
  | all
  | empty
  | not (set : CharSet)
  | or (a b : CharSet)
  | and (a b : CharSet)
  deriving Repr, Inhabited

namespace CharSet

def holds : CharSet → Char → Bool
  | .char d, c => c == d
  | .range first last, c => decide (first ≤ c) && decide (c ≤ last)
  | .shorthand kind, c => kind.holds c
  | .all, _ => true
  | .empty, _ => false
  | .not set, c => !set.holds c
  | .or a b, c => a.holds c || b.holds c
  | .and a b, c => a.holds c && b.holds c

end CharSet

namespace Pattern

/-- A piece of a pattern. -/
inductive Node where
  | empty
  | one (set : CharSet) (anyCase : Bool)
  | lineStart
  | lineEnd
  | textStart
  | textEnd
  | wordEdge (inside : Bool)
  | seq (first second : Node)
  | alt (first second : Node)
  | repeated (body : Node) (least : Nat) (most? : Option Nat)
  | capture (index : Nat) (body : Node)
  | again (index : Nat)
  | look (ahead negated : Bool) (body : Node)
  | atomic (body : Node)
  deriving Repr, Inhabited

end Pattern

end ApiLint
