/-!
# Text, lines and pieces

Every column, span and name in this library counts characters, so a text is the
list of its characters. Lines end at a line feed and nowhere else: a carriage
return belongs to the line it stands on, and a text with `n` line feeds has
`n + 1` lines, the last of them possibly empty.

`join_split` says that splitting loses nothing.
-/

namespace ApiLint

/-- The characters of a document, a key or a pointer. -/
abbrev Text := List Char

namespace Text

/-- The pieces of a text between the occurrences of `sep`; always at least one. -/
def split (sep : Char) : Text → List Text
  | [] => [[]]
  | c :: rest =>
    match split sep rest with
    | [] => [[c]]
    | piece :: more => if c = sep then [] :: piece :: more else (c :: piece) :: more

/-- The pieces put back together with `sep` between neighbours. -/
def join (sep : Char) : List Text → Text
  | [] => []
  | [piece] => piece
  | piece :: next :: more => piece ++ sep :: join sep (next :: more)

/-- The lines of a text, without their line feeds. -/
def lines (text : Text) : List Text := split '\n' text

theorem split_ne_nil (sep : Char) (text : Text) : split sep text ≠ [] := by
  cases text with
  | nil => simp [split]
  | cons c rest =>
    simp only [split]
    split
    · simp
    · split <;> simp

/-- Joining what was split gives the text back. -/
theorem join_split (sep : Char) (text : Text) : join sep (split sep text) = text := by
  induction text with
  | nil => rfl
  | cons c rest ih =>
    simp only [split]
    cases h : split sep rest with
    | nil => exact absurd h (split_ne_nil sep rest)
    | cons piece more =>
      rw [h] at ih
      by_cases hc : c = sep
      · simp [hc, join, ih]
      · cases more with
        | nil =>
          simp only [join] at ih
          simp [hc, join, ih]
        | cons next more =>
          simp only [join] at ih
          simp [hc, join, ← ih]

/-- What stands before line `n`: the lines before it, with their line feeds. -/
def lineStart (text : Text) (n : Nat) : Text :=
  (text.lines.take n).flatMap fun line => line ++ ['\n']

/-- What follows the last line feed of a text, read from its end. -/
def lastLine (text : Text) : Text := (text.reverse.takeWhile (· != '\n')).reverse

/-- The text up to its first line feed, and without a carriage return before that. -/
def firstLine (text : Text) : Text :=
  let line := text.takeWhile (· != '\n')
  if line.length < text.length ∧ line.getLast? = some '\r' then line.dropLast else line

/-- Whether `part` stands at the front of the text; what follows it if so. -/
def after? : Text → Text → Option Text
  | [], text => some text
  | _ :: _, [] => none
  | p :: part, c :: text => if p = c then after? part text else none

theorem after?_eq_some_iff {part text rest : Text} :
    after? part text = some rest ↔ text = part ++ rest := by
  induction part generalizing text with
  | nil => simp [after?]
  | cons p part ih =>
    cases text with
    | nil => simp [after?]
    | cons c text =>
      rw [after?, List.cons_append, List.cons.injEq]
      split
      · next hp => rw [ih]; simp [hp]
      · next hp => simp [Ne.symm hp]

/-- Every pair of neighbours `first`, `second` replaced by `new`, from the left. -/
def replacePair (first second new : Char) : Text → Text
  | [] => []
  | [c] => [c]
  | c :: d :: rest =>
    if c = first ∧ d = second then new :: replacePair first second new rest
    else c :: replacePair first second new (d :: rest)

end Text

end ApiLint
