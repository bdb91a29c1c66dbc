import Mathlib.Data.List.DropRight
import ApiLint.Text.Blank

/-!
# Runs of characters

Readers take characters of one kind for as long as they come. Where a text is such characters and
then something that does not go on with them (`Stops`), what is taken and what is left are those
two parts (`takeWhile_run`, `dropWhile_run`), and every text is cut into two such parts.

Trimming takes a run of white space off either end: what is left stands between white space and
has none at its own ends (`exists_eq_append_trim`, `not_blank_of_mem_head?_trim`,
`not_blank_of_mem_getLast?_trim`).
-/

namespace ApiLint.Text

/-- Nothing that a run of such characters could go on with. -/
def Stops (p : Char → Bool) (rest : Text) : Prop := ∀ c ∈ rest.head?, p c = false

section

variable {p : Char → Bool} {front rest : Text}

theorem stops_nil (p : Char → Bool) : Stops p [] := nofun

theorem stops_cons {c : Char} (h : p c = false) (rest : Text) : Stops p (c :: rest) := by
  intro d hd
  injection hd with hd
  rw [← hd]
  exact h

theorem stops_dropWhile (p : Char → Bool) (text : Text) : Stops p (text.dropWhile p) := by
  intro c hc
  have hhead := List.head?_dropWhile_not p text
  rw [Option.mem_def.mp hc] at hhead
  exact hhead

theorem Stops.dropWhile_eq (h : Stops p rest) : rest.dropWhile p = rest := by
  cases rest with
  | nil => rfl
  | cons c rest => exact List.dropWhile_cons_of_neg (by simp [h c rfl])

theorem Stops.takeWhile_eq (h : Stops p rest) : rest.takeWhile p = [] := by
  cases rest with
  | nil => rfl
  | cons c rest => exact List.takeWhile_cons_of_neg (by simp [h c rfl])

theorem dropWhile_run (hfront : ∀ c ∈ front, p c = true) (hrest : Stops p rest) :
    (front ++ rest).dropWhile p = rest := by
  rw [List.dropWhile_append_of_pos hfront, hrest.dropWhile_eq]

theorem takeWhile_run (hfront : ∀ c ∈ front, p c = true) (hrest : Stops p rest) :
    (front ++ rest).takeWhile p = front := by
  rw [List.takeWhile_append_of_pos hfront, hrest.takeWhile_eq, List.append_nil]

theorem dropWhile_eq_iff {text : Text} :
    text.dropWhile p = rest ↔
      Stops p rest ∧ ∃ front, (∀ c ∈ front, p c = true) ∧ text = front ++ rest := by
  constructor
  · rintro rfl
    exact ⟨stops_dropWhile p text, text.takeWhile p, fun _ hc => List.mem_takeWhile_imp hc,
      List.takeWhile_append_dropWhile.symm⟩
  · rintro ⟨hrest, front, hfront, rfl⟩
    exact dropWhile_run hfront hrest

theorem exists_run (p : Char → Bool) (text : Text) :
    ∃ front rest, text = front ++ rest ∧ (∀ c ∈ front, p c = true) ∧ Stops p rest :=
  have ⟨hrest, front, hfront, htext⟩ := dropWhile_eq_iff.mp (Eq.refl (text.dropWhile p))
  ⟨front, text.dropWhile p, htext, hfront, hrest⟩

end

/-! ## Trimming -/

/-- What is trimmed off is white space. -/
theorem exists_eq_append_trim (text : Text) :
    ∃ front back, text = front ++ (text.trim ++ back) ∧ (∀ c ∈ front, isBlank c = true) ∧
      ∀ c ∈ back, isBlank c = true := by
  refine ⟨text.takeWhile isBlank, text.trimStart.rtakeWhile isBlank, ?_, ?_, ?_⟩
  · have hback : text.trim ++ text.trimStart.rtakeWhile isBlank = text.trimStart :=
      List.rdropWhile_append_rtakeWhile
    rw [hback]
    exact List.takeWhile_append_dropWhile.symm
  · exact fun c hc => List.mem_takeWhile_imp hc
  · exact fun c hc => List.mem_rtakeWhile_imp hc

theorem not_blank_of_mem_head?_trim {text : Text} {c : Char} (h : c ∈ text.trim.head?) :
    isBlank c = false := by
  refine stops_dropWhile isBlank text c ?_
  obtain ⟨back, hback⟩ : text.trim <+: text.trimStart := List.rdropWhile_prefix isBlank _
  show c ∈ text.trimStart.head?
  rw [← hback, List.head?_append, Option.mem_def.mp h]
  rfl

theorem not_blank_of_mem_getLast?_trim {text : Text} {c : Char} (h : c ∈ text.trim.getLast?) :
    isBlank c = false := by
  refine stops_dropWhile isBlank text.trimStart.reverse c ?_
  rw [← List.getLast?_reverse]
  exact h

theorem trim_of_not_blank {text : Text} (h : ∀ c ∈ text, isBlank c = false) : text.trim = text := by
  have hstart : text.trimStart = text := Stops.dropWhile_eq fun c hc => h c (List.mem_of_head? hc)
  rw [trim, hstart, trimEnd, Stops.dropWhile_eq, List.reverse_reverse]
  exact fun c hc => h c (List.mem_reverse.mp (List.mem_of_head? hc))

end ApiLint.Text
