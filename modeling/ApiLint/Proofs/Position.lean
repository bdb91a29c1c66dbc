import ApiLint.Position
import ApiLint.Proofs.Text.Bytes
import ApiLint.Proofs.Text.Lines

/-!
# Positions of a text

Positions are ordered as they are read, and `Position.after` is where a text ends, seen as the
place of what follows it: whatever a text goes on with leads further
(`after_lt_after_append`). `Position.ofByte` is the place of a byte of a text.

A text has the positions that `Position.ExistsIn` says, and none of them is past the one that
all of it leads to (`ExistsIn.le_after`).
-/

namespace ApiLint

namespace Position

/-- The position that a text leads to. -/
def after (before : Text) : Position := ⟨before.count '\n', before.lastLine.length⟩

theorem le_iff {p q : Position} :
    p ≤ q ↔ p.line < q.line ∨ (p.line = q.line ∧ p.column ≤ q.column) := by
  constructor
  · rintro (rfl | hline | ⟨hline, hcolumn⟩)
    · exact Or.inr ⟨rfl, Nat.le_refl _⟩
    · exact Or.inl hline
    · exact Or.inr ⟨hline, Nat.le_of_lt hcolumn⟩
  · rintro (hline | ⟨hline, hcolumn⟩)
    · exact Or.inr (Or.inl hline)
    · rcases Nat.lt_or_eq_of_le hcolumn with hlt | heq
      · exact Or.inr (Or.inr ⟨hline, hlt⟩)
      · cases p
        cases q
        exact Or.inl (congr (congrArg Position.mk hline) heq)

theorem lt_iff {p q : Position} :
    p < q ↔ p.line < q.line ∨ (p.line = q.line ∧ p.column < q.column) := Iff.rfl

theorem not_le {p q : Position} : ¬ q ≤ p ↔ p < q := by
  rw [le_iff, lt_iff]
  omega

theorem le_trans {p q r : Position} (hpq : p ≤ q) (hqr : q ≤ r) : p ≤ r := by
  rw [le_iff] at hpq hqr ⊢
  omega

theorem after_append_of_not_mem (before : Text) {line : Text} (h : '\n' ∉ line) :
    after (before ++ line) =
      ⟨(after before).line, (after before).column + line.length⟩ := by
  rw [after, after, List.count_append, List.count_eq_zero_of_not_mem h,
    Text.lastLine_append_of_not_mem before h, List.length_append, Nat.add_zero]

/-- Whatever a text goes on with leads further. -/
theorem after_lt_after_append (before : Text) {more : Text} (h : more ≠ []) :
    after before < after (before ++ more) := by
  by_cases hmore : '\n' ∈ more
  · have hpos : 0 < more.count '\n' := List.count_pos_iff.mpr hmore
    refine lt_iff.mpr (Or.inl ?_)
    show before.count '\n' < (before ++ more).count '\n'
    rw [List.count_append]
    omega
  · rw [after_append_of_not_mem before hmore]
    exact lt_iff.mpr (Or.inr ⟨rfl, Nat.lt_add_of_pos_right (List.length_pos_iff.mpr h)⟩)

/-- What is longer ends no earlier. -/
theorem after_le_after_append (before more : Text) : after before ≤ after (before ++ more) := by
  by_cases hmore : more = []
  · rw [hmore, List.append_nil]
    exact Or.inl rfl
  · exact Or.inr (after_lt_after_append before hmore)

/-- The position of a byte. -/
def ofByte (text : Text) (n : Nat) : Position := after (text.takeBytes n)

theorem ofByte_byteLength (before rest : Text) :
    ofByte (before ++ rest) before.byteLength = after before := by
  rw [ofByte, Text.takeBytes_byteLength]

theorem ofByte_le_ofByte (text : Text) {n m : Nat} (hle : n ≤ m) :
    ofByte text n ≤ ofByte text m := by
  obtain ⟨more, hmore⟩ := Text.exists_takeBytes_eq_append hle text
  rw [ofByte, ofByte, hmore]
  exact after_le_after_append _ more

theorem offset_eq {text line : Text} {n column : Nat} (h : text.lines[n]? = some line)
    (hcolumn : column ≤ line.length) :
    offset ⟨n, column⟩ text = (text.lineStart n).length + column := by
  rw [offset, h]
  show (text.lineStart n).length + min column line.length = _
  rw [Nat.min_eq_left hcolumn]

theorem origin_existsIn (text : Text) : origin.ExistsIn text := by
  cases hlines : text.lines with
  | nil => exact absurd hlines (Text.split_ne_nil '\n' text)
  | cons line more => exact ⟨line, by rw [hlines]; rfl, Nat.zero_le _⟩

theorem offset_origin (text : Text) : origin.offset text = 0 := by
  obtain ⟨line, hline, hcolumn⟩ := origin_existsIn text
  exact offset_eq hline hcolumn

theorem offset_after (text : Text) : (after text).offset text = text.length := by
  have h := offset_eq (Text.getElem?_lines_count text) (Nat.le_refl _)
  rwa [← List.length_append, Text.lineStart_append_lastLine] at h

theorem after_existsIn (text : Text) : (after text).ExistsIn text :=
  ⟨text.lastLine, Text.getElem?_lines_count text, Nat.le_refl _⟩

/-- No position of a text is past the one that it leads to. -/
theorem ExistsIn.le_after {p : Position} {text : Text} (h : p.ExistsIn text) : p ≤ after text := by
  obtain ⟨line, hline, hcolumn⟩ := h
  have hexists : p.line < text.lines.length := (List.getElem?_eq_some_iff.mp hline).1
  rw [Text.length_lines] at hexists
  rcases Nat.lt_or_eq_of_le (Nat.le_of_lt_succ hexists) with hlt | hlast
  · exact le_iff.mpr (Or.inl hlt)
  · rw [hlast, Text.getElem?_lines_count] at hline
    injection hline with hline
    rw [← hline] at hcolumn
    exact le_iff.mpr (Or.inr ⟨hlast, hcolumn⟩)

end Position

end ApiLint
