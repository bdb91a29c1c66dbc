import ApiLint.Text.Lines

/-!
# How alike two words are

Two characters of two words match if they are equal and not far apart, each being matched at
most once. Two words are the more alike the more of their characters match, and the fewer
matches stand in another order. The measure is a fraction between zero and one.
-/

namespace ApiLint.Text

/-- The places of a word, each with its character and whether it is matched. -/
abbrev Places := List (Char × Bool)

/-- Matches a character with the first free equal one whose index, counted from `index`,
lies from `low` to before `high`. -/
def matchIn (c : Char) (low high : Nat) (index : Nat) : Places → Option Places
  | [] => none
  | (other, taken) :: rest =>
    if high ≤ index then none
    else if low ≤ index ∧ c = other ∧ !taken then some ((other, true) :: rest)
    else (matchIn c low high (index + 1) rest).map ((other, taken) :: ·)

/-- The matched characters of the first word in order, and the places of the second. -/
def matchFrom (reach : Nat) (index : Nat) (places : Places) : Text → Text × Places
  | [] => ([], places)
  | c :: rest =>
    match matchIn c (index - reach) (index + reach + 1) 0 places with
    | some places =>
      let (found, places) := matchFrom reach (index + 1) places rest
      (c :: found, places)
    | none => matchFrom reach (index + 1) places rest

/-- How alike two words are, as numerator and denominator. -/
def likeness (a b : Text) : Nat × Nat :=
  if a.isEmpty && b.isEmpty then (1, 1)
  else
    let reach := max a.length b.length / 2 - 1
    let (found, places) := matchFrom reach 0 (b.map (·, false)) a
    let others := (places.filter (·.2)).map (·.1)
    let m := found.length
    let moved := ((found.zip others).filter fun (c, d) => c != d).length / 2
    if m = 0 then (0, 1)
    else
      (m * m * b.length + m * m * a.length + (m - moved) * a.length * b.length,
        3 * a.length * b.length * m)

/-- Whether a fraction is above seven tenths. -/
def isAlike (fraction : Nat × Nat) : Bool := 7 * fraction.2 < 10 * fraction.1

/-- The word that is most like another, if one is alike at all; of several the last. -/
def closest? (word : Text) (candidates : List Text) : Option Text :=
  let best := candidates.foldl (fun (best : Option (Text × (Nat × Nat))) candidate =>
    let fraction := likeness word candidate
    match best with
    | some (_, other) =>
      if other.1 * fraction.2 ≤ fraction.1 * other.2 then some (candidate, fraction) else best
    | none => some (candidate, fraction)) none
  match best with
  | some (candidate, fraction) => if isAlike fraction then some candidate else none
  | none => none

end ApiLint.Text
