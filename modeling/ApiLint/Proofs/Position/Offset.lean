import Mathlib.Data.Set.Function
import Mathlib.Order.Bounds.Defs
import Mathlib.Order.Interval.Set.Defs
import ApiLint.Proofs.Position

/-!
# Positions and numbers of characters

`Position.offset` counts the characters before a position, `Position.ofOffset` goes so many
characters into the text. On the positions of a text they undo each other, and both keep the
order. All of it comes from one fact: a longer front of a text leads further
(`ofOffset_lt_ofOffset`), so no two fronts lead to the same position.

A position that the text does not have is counted like `Position.clamp`, the end of its line or
of the text. That is the greatest position of the text not after it (`isGreatest_clamp`), and so
the order is kept there as well, though not strictly (`offset_le_offset`).
-/

namespace ApiLint

namespace Position

/-- The position that so many characters of the text lead to. -/
def ofOffset (text : Text) (n : Nat) : Position := after (text.take n)

theorem ofOffset_le_ofOffset (text : Text) {n m : Nat} (hle : n ≤ m) :
    ofOffset text n ≤ ofOffset text m := by
  obtain ⟨k, rfl⟩ := Nat.exists_eq_add_of_le hle
  rw [ofOffset, ofOffset, List.take_add]
  exact after_le_after_append _ _

theorem ofOffset_lt_ofOffset {text : Text} {n m : Nat} (hlt : n < m) (hm : m ≤ text.length) :
    ofOffset text n < ofOffset text m := by
  obtain ⟨k, rfl⟩ := Nat.exists_eq_add_of_le (Nat.le_of_lt hlt)
  have hlength : ((text.drop n).take k).length = k := by
    rw [List.length_take_of_le (by rw [List.length_drop]; omega)]
  rw [ofOffset, ofOffset, List.take_add]
  exact after_lt_after_append _ (List.ne_nil_of_length_pos (by omega))

theorem ofOffset_le_ofOffset_iff {text : Text} {n m : Nat} (hn : n ≤ text.length) :
    ofOffset text n ≤ ofOffset text m ↔ n ≤ m := by
  refine ⟨fun hle => ?_, ofOffset_le_ofOffset text⟩
  by_contra hlt
  exact not_le.mpr (ofOffset_lt_ofOffset (Nat.lt_of_not_le hlt) hn) hle

theorem ofOffset_existsIn (text : Text) (n : Nat) : (ofOffset text n).ExistsIn text := by
  obtain ⟨more, hmore⟩ := Text.exists_getElem?_lines_append (text.take n) (text.drop n)
  rw [List.take_append_drop] at hmore
  exact ⟨_, hmore, by simp [ofOffset, after]⟩

theorem ExistsIn.offset_le_length {p : Position} {text : Text} (h : p.ExistsIn text) :
    p.offset text ≤ text.length := by
  obtain ⟨line, hline, hcolumn⟩ := h
  obtain ⟨rest, hrest⟩ := Text.eq_lineStart_append hline
  have hlength := congrArg List.length hrest
  rw [List.length_append, List.length_append] at hlength
  rw [offset_eq hline hcolumn]
  omega

/-- A position of the text is the one that the characters before it lead to. -/
theorem ExistsIn.ofOffset_offset {p : Position} {text : Text} (h : p.ExistsIn text) :
    ofOffset text (p.offset text) = p := by
  obtain ⟨line, hline, hcolumn⟩ := h
  have hnot : '\n' ∉ line.take p.column := fun hmem =>
    Text.not_mem_of_mem_lines (List.mem_of_getElem? hline) (List.mem_of_mem_take hmem)
  rw [ofOffset, offset_eq hline hcolumn, Text.take_lineStart_add hline hcolumn,
    after_append_of_not_mem _ hnot, after, Text.count_lineStart hline, Text.lastLine_lineStart,
    List.length_take_of_le hcolumn, List.length_nil, Nat.zero_add]

/-- So many characters lead to a position with so many before it, for no other number leads
there. -/
theorem offset_ofOffset {text : Text} {n : Nat} (h : n ≤ text.length) :
    (ofOffset text n).offset text = n := by
  have hexists := ofOffset_existsIn text n
  have hsame := hexists.ofOffset_offset
  exact Nat.le_antisymm
    ((ofOffset_le_ofOffset_iff hexists.offset_le_length).mp (Or.inl hsame))
    ((ofOffset_le_ofOffset_iff h).mp (Or.inl hsame.symm))

theorem offset_le_offset_iff {p q : Position} {text : Text} (hp : p.ExistsIn text)
    (hq : q.ExistsIn text) : p.offset text ≤ q.offset text ↔ p ≤ q := by
  rw [← ofOffset_le_ofOffset_iff hp.offset_le_length, hp.ofOffset_offset, hq.ofOffset_offset]

theorem bijOn_offset (text : Text) :
    Set.BijOn (fun p : Position => p.offset text) {p | p.ExistsIn text} (Set.Iic text.length) := by
  have hinverse : Set.InvOn (ofOffset text) (fun p : Position => p.offset text)
      {p | p.ExistsIn text} (Set.Iic text.length) :=
    ⟨fun _ hp => ExistsIn.ofOffset_offset hp, fun _ hn => offset_ofOffset hn⟩
  exact hinverse.bijOn (fun _ hp => ExistsIn.offset_le_length hp)
    fun n _ => ofOffset_existsIn text n

/-! ## Positions that the text need not have -/

/-- The position itself if the text has it, else the end of its line, or of the text if that
has no such line. -/
def clamp (p : Position) (text : Text) : Position :=
  match text.lines[p.line]? with
  | some line => ⟨p.line, min p.column line.length⟩
  | none => after text

theorem clamp_of_line {p : Position} {text line : Text} (h : text.lines[p.line]? = some line) :
    p.clamp text = ⟨p.line, min p.column line.length⟩ := by
  rw [clamp, h]

theorem clamp_of_no_line {p : Position} {text : Text} (h : text.lines[p.line]? = none) :
    p.clamp text = after text := by
  rw [clamp, h]

theorem clamp_existsIn (p : Position) (text : Text) : (p.clamp text).ExistsIn text := by
  cases h : text.lines[p.line]? with
  | none =>
      rw [clamp_of_no_line h]
      exact after_existsIn text
  | some line =>
      rw [clamp_of_line h]
      exact ⟨line, h, Nat.min_le_right _ _⟩

theorem offset_clamp (p : Position) (text : Text) :
    (p.clamp text).offset text = p.offset text := by
  cases h : text.lines[p.line]? with
  | none => rw [clamp_of_no_line h, offset_after, offset, h]
  | some line => rw [clamp_of_line h, offset_eq h (Nat.min_le_right _ _), offset, h]

/-- Clamping loses no position of the text that is not after the clamped one. -/
theorem ExistsIn.le_clamp_iff {q : Position} {text : Text} (hq : q.ExistsIn text) (p : Position) :
    q ≤ p.clamp text ↔ q ≤ p := by
  obtain ⟨own, hown, hcolumn⟩ := id hq
  cases h : text.lines[p.line]? with
  | none =>
      have hlast : q.line < text.lines.length := (List.getElem?_eq_some_iff.mp hown).1
      have hpast : text.lines.length ≤ p.line := List.getElem?_eq_none_iff.mp h
      rw [clamp_of_no_line h]
      exact iff_of_true hq.le_after (le_iff.mpr (Or.inl (by omega)))
  | some line =>
      have hsame : q.line = p.line → q.column ≤ line.length := by
        intro hlines
        rw [hlines, h] at hown
        exact Option.some.inj hown ▸ hcolumn
      rw [clamp_of_line h, le_iff, le_iff]
      show q.line < p.line ∨ (q.line = p.line ∧ q.column ≤ min p.column line.length) ↔ _
      omega

theorem isGreatest_clamp (p : Position) (text : Text) :
    IsGreatest {q : Position | q.ExistsIn text ∧ q ≤ p} (p.clamp text) :=
  ⟨⟨clamp_existsIn p text, ((clamp_existsIn p text).le_clamp_iff p).mp (Or.inl rfl)⟩,
    fun _ hq => (hq.1.le_clamp_iff p).mpr hq.2⟩

theorem offset_le_length (p : Position) (text : Text) : p.offset text ≤ text.length := by
  rw [← offset_clamp]
  exact (clamp_existsIn p text).offset_le_length

theorem offset_le_offset {p q : Position} (h : p ≤ q) (text : Text) :
    p.offset text ≤ q.offset text := by
  have hp := clamp_existsIn p text
  rw [← offset_clamp p, ← offset_clamp q, offset_le_offset_iff hp (clamp_existsIn q text),
    hp.le_clamp_iff]
  exact le_trans (isGreatest_clamp p text).1.2 h

end Position

theorem Range.toCharSpan_bounds (range : Range) (text : Text) :
    (range.toCharSpan text).start ≤ (range.toCharSpan text).stop ∧
      (range.toCharSpan text).stop ≤ text.length :=
  ⟨Nat.le_max_left _ _,
    Nat.max_le.mpr ⟨Position.offset_le_length _ text, Position.offset_le_length _ text⟩⟩

namespace Position

/-- Numbers of characters are the positions of a text in their order, and any other position
counts as the last one not after it. So every range, in order or not, has a span within the text. -/
theorem offset_spec (text : Text) :
    (∀ p q : Position, p.ExistsIn text → q.ExistsIn text →
      (p < q ↔ p.offset text < q.offset text)) ∧
    Set.BijOn (fun p : Position => p.offset text) {p | p.ExistsIn text} (Set.Iic text.length) ∧
    (∀ p : Position, ∃ q, IsGreatest {q : Position | q.ExistsIn text ∧ q ≤ p} q ∧
      p.offset text = q.offset text) ∧
    ∀ range : Range,
      (range.start ≤ range.stop →
        range.toCharSpan text = ⟨range.start.offset text, range.stop.offset text⟩) ∧
      (range.stop ≤ range.start →
        range.toCharSpan text = ⟨range.start.offset text, range.start.offset text⟩) ∧
      (range.toCharSpan text).start ≤ (range.toCharSpan text).stop ∧
      (range.toCharSpan text).stop ≤ text.length := by
  refine ⟨?_, bijOn_offset text, ?_, ?_⟩
  · intro p q hp hq
    rw [← not_le, ← Nat.not_le, offset_le_offset_iff hq hp]
  · exact fun p => ⟨p.clamp text, isGreatest_clamp p text, (offset_clamp p text).symm⟩
  · intro range
    refine ⟨fun hordered => ?_, fun hinverted => ?_, range.toCharSpan_bounds text⟩
    · rw [Range.toCharSpan, Nat.max_eq_right (offset_le_offset hordered text)]
    · rw [Range.toCharSpan, Nat.max_eq_left (offset_le_offset hinverted text)]

/-- The end of a line and the start of the empty one below it; a range that leaves the text, and
one that runs backwards. -/
theorem offset_around_empty_line :
    let text : Text := "ab\n\ncdé".toList
    let ending : Position := ⟨0, 2⟩
    let empty : Position := ⟨1, 0⟩
    let leaving : Range := ⟨⟨0, 9⟩, ⟨7, 0⟩⟩
    let backwards : Range := ⟨⟨2, 9⟩, ⟨1, 4⟩⟩
    ending.ExistsIn text ∧ empty.ExistsIn text ∧ ending.offset text < empty.offset text ∧
      leaving.toCharSpan text = ⟨2, 7⟩ ∧ backwards.toCharSpan text = ⟨7, 7⟩ := by
  intro text ending empty leaving backwards
  obtain ⟨hstrict, _, _, hspan⟩ := offset_spec text
  have hending : ending.ExistsIn text := ⟨"ab".toList, by decide, by decide⟩
  have hempty : empty.ExistsIn text := ⟨[], by decide, by decide⟩
  refine ⟨hending, hempty, (hstrict ending empty hending hempty).mp (by decide), ?_, ?_⟩
  · exact ((hspan leaving).1 (by decide)).trans (by decide)
  · exact ((hspan backwards).2.1 (by decide)).trans (by decide)

end Position

end ApiLint
