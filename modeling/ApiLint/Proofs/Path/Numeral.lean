import Mathlib.Data.List.Induction
import ApiLint.Path

/-!
# How an index can be spelled

An index has one shortest spelling, the decimal digits of its number, and that is how it is
written. It is read from more: zeros may stand before the digits, and a plus sign before those.
`index?_eq_some_iff` lists all spellings of a number. The key to it is `exists_eq_padded`: by
induction from the back, a row of digits is that of its number with some zeros before it.

A text that reads as an index without being its shortest spelling is `IsPadded`. Such texts, and
no others, are changed by reading them as a step of a path and writing that
(`Segment.display_parse_eq_iff`).
-/

namespace ApiLint

namespace Numeral

/-- The decimal digits of a number, after so many zeros. -/
def padded (zeros n : Nat) : Text := List.replicate zeros '0' ++ Nat.toDigits 10 n

/-- A number below `2 ^ 64` in decimal digits, after a plus sign or after zeros that it does not
need. -/
def IsPadded (raw : Text) : Prop :=
  ∃ n < UInt64.size, ∃ zeros, raw = '+' :: padded zeros n ∨ zeros ≠ 0 ∧ raw = padded zeros n

theorem length_padded (zeros n : Nat) :
    (padded zeros n).length = zeros + (Nat.toDigits 10 n).length := by
  rw [padded, List.length_append, List.length_replicate]

theorem padded_ne_nil (zeros n : Nat) : padded zeros n ≠ [] := by
  simp [padded, Nat.toDigits_ne_nil]

/-! ## Digits and their number -/

theorem isDecimal_eq_isDigit (c : Char) : isDecimal c = c.isDigit := rfl

theorem not_mem_toDigits {c : Char} (h : isDecimal c = false) (n : Nat) :
    c ∉ Nat.toDigits 10 n := by
  intro hmem
  rw [isDecimal_eq_isDigit, Nat.isDigit_of_mem_toDigits (by decide) (by decide) hmem] at h
  cases h

theorem bounds_of_isDecimal {c : Char} (h : isDecimal c = true) : 48 ≤ c.toNat ∧ c.toNat ≤ 57 := by
  simpa [isDecimal_eq_isDigit, Char.isDigit, UInt32.le_iff_toNat_le] using h

theorem toDigits_of_isDecimal {c : Char} (h : isDecimal c = true) :
    Nat.toDigits 10 (c.toNat - 48) = [c] := by
  obtain ⟨hlow, hhigh⟩ := bounds_of_isDecimal h
  have hdigit : (Nat.digitChar (c.toNat - 48)).toNat = c.toNat := by
    rw [Nat.toNat_digitChar_of_lt_ten (by omega)]
    omega
  rw [Nat.toDigits_of_lt_base (by omega), Char.toNat_inj.mp hdigit]

theorem isDecimal_of_mem_padded {zeros n : Nat} {c : Char} (h : c ∈ padded zeros n) :
    isDecimal c = true := by
  rcases List.mem_append.mp h with hzero | hdigit
  · rw [List.eq_of_mem_replicate hzero]
    rfl
  · exact Nat.isDigit_of_mem_toDigits (by decide) (by decide) hdigit

theorem ofDigits_eq (digits : Text) : ofDigits digits = Nat.ofDigitChars 10 digits 0 := by
  rw [ofDigits, Nat.ofDigitChars_eq_foldl]
  congr 1
  funext n c
  rw [Nat.mul_comm]
  rfl

theorem ofDigits_append_singleton (front : Text) (c : Char) :
    ofDigits (front ++ [c]) = 10 * ofDigits front + (c.toNat - 48) := by
  rw [ofDigits, List.foldl_append, ← ofDigits, Nat.mul_comm]
  rfl

theorem ofDigits_padded (zeros n : Nat) : ofDigits (padded zeros n) = n := by
  rw [ofDigits_eq, padded, Nat.ofDigitChars_append, Nat.ofDigitChars_replicate_zero,
    Nat.mul_zero, Nat.ofDigitChars_ten_toDigits]

/-- A row of digits is that of its number, after some zeros. -/
theorem exists_eq_padded {digits : Text} (hne : digits ≠ [])
    (hdigits : ∀ c ∈ digits, isDecimal c = true) :
    ∃ zeros, digits = padded zeros (ofDigits digits) := by
  induction digits using List.reverseRecOn with
  | nil => exact absurd rfl hne
  | append_singleton front c ih =>
      have hc : isDecimal c = true := hdigits c (by simp)
      have hone := toDigits_of_isDecimal hc
      rw [ofDigits_append_singleton]
      by_cases hfront : front = []
      · subst hfront
        exact ⟨0, by simpa [padded, ofDigits] using hone.symm⟩
      · obtain ⟨zeros, hzeros⟩ := ih hfront fun d hd => hdigits d (List.mem_append_left _ hd)
        rcases Nat.eq_zero_or_pos (ofDigits front) with hzero | hpos
        · -- Only zeros so far: the one that stood for their number is one more before `c`.
          refine ⟨zeros + 1, ?_⟩
          rw [hzero] at hzeros ⊢
          rw [hzeros, padded, padded, Nat.mul_zero, Nat.zero_add, hone, Nat.toDigits_zero,
            List.replicate_succ']
        · refine ⟨zeros, ?_⟩
          have hbounds := bounds_of_isDecimal hc
          rw [padded, ← Nat.toDigits_append_toDigits (by decide) hpos (by omega), hone,
            ← List.append_assoc, ← padded, ← hzeros]

/-! ## The spellings of an index -/

theorem eq_cons_or_eq_unplussed (raw : Text) :
    raw = '+' :: unplussed raw ∨ raw = unplussed raw := by
  rw [unplussed.eq_def]
  split
  · exact Or.inl rfl
  · exact Or.inr rfl

theorem unplussed_padded (zeros n : Nat) : unplussed (padded zeros n) = padded zeros n := by
  rcases eq_cons_or_eq_unplussed (padded zeros n) with hplus | hsame
  · have hdecimal := isDecimal_of_mem_padded (hplus ▸ List.mem_cons_self)
    exact absurd hdecimal (by decide)
  · exact hsame.symm

theorem index?_of_unplussed_eq {raw : Text} {zeros n : Nat} (hn : n < UInt64.size)
    (h : unplussed raw = padded zeros n) : index? raw = some n := by
  have hdigits : ∀ c ∈ padded zeros n, isDecimal c = true := fun _ => isDecimal_of_mem_padded
  have hread : padded zeros n ≠ [] ∧ (padded zeros n).all isDecimal ∧ n < UInt64.size :=
    ⟨padded_ne_nil zeros n, List.all_eq_true.mpr hdigits, hn⟩
  simp only [index?, h, ofDigits_padded, if_pos hread]

/-- An index is read from its digits, perhaps after zeros, perhaps after a plus sign. -/
theorem index?_eq_some_iff {raw : Text} {n : Nat} :
    index? raw = some n ↔
      n < UInt64.size ∧ ∃ zeros, raw = '+' :: padded zeros n ∨ raw = padded zeros n := by
  constructor
  · intro h
    rw [index?] at h
    split at h
    · next hread =>
        obtain ⟨hne, hdigits, hsize⟩ := hread
        injection h with h
        obtain ⟨zeros, hzeros⟩ := exists_eq_padded hne (List.all_eq_true.mp hdigits)
        rw [h] at hsize hzeros
        refine ⟨hsize, zeros, ?_⟩
        rw [← hzeros]
        exact eq_cons_or_eq_unplussed raw
    · cases h
  · rintro ⟨hn, zeros, rfl | rfl⟩
    · exact index?_of_unplussed_eq hn rfl
    · exact index?_of_unplussed_eq hn (unplussed_padded zeros n)

theorem IsPadded.exists_index? {raw : Text} (h : IsPadded raw) :
    ∃ n, index? raw = some n ∧ (Nat.toDigits 10 n).length < raw.length := by
  obtain ⟨n, hn, zeros, hraw⟩ := h
  refine ⟨n, index?_eq_some_iff.mpr ⟨hn, zeros, hraw.imp_right And.right⟩, ?_⟩
  rcases hraw with hplus | ⟨hzeros, hpadded⟩
  · rw [hplus, List.length_cons, length_padded]
    omega
  · rw [hpadded, length_padded]
    omega

/-- An index is written as it was read unless it had a sign or zeros to lose. -/
theorem toDigits_eq_iff {raw : Text} {n : Nat} (h : index? raw = some n) :
    Nat.toDigits 10 n = raw ↔ ¬ IsPadded raw := by
  constructor
  · intro hshortest hpadded
    obtain ⟨m, hm, hlonger⟩ := hpadded.exists_index?
    obtain rfl : n = m := Option.some.inj (h.symm.trans hm)
    rw [hshortest] at hlonger
    exact Nat.lt_irrefl _ hlonger
  · intro hnot
    obtain ⟨hn, zeros, hplus | hpadded⟩ := index?_eq_some_iff.mp h
    · exact absurd ⟨n, hn, zeros, Or.inl hplus⟩ hnot
    · by_cases hzeros : zeros = 0
      · rw [hpadded, hzeros]
        rfl
      · exact absurd ⟨n, hn, zeros, Or.inr ⟨hzeros, hpadded⟩⟩ hnot

end Numeral

namespace Segment

/-- A step is written as it was spelled unless it is a number that was padded. -/
theorem display_parse_eq_iff {raw : Text} :
    (parse raw).display = raw ↔ ¬ Numeral.IsPadded raw := by
  cases h : Numeral.index? raw with
  | none =>
      have hkey : (parse raw).display = raw := by rw [parse, h]; rfl
      refine iff_of_true hkey fun hpadded => ?_
      obtain ⟨n, hn, _⟩ := hpadded.exists_index?
      rw [h] at hn
      cases hn
  | some n =>
      have hindex : (parse raw).display = Nat.toDigits 10 n := by rw [parse, h]; rfl
      rw [hindex, Numeral.toDigits_eq_iff h]

end Segment

end ApiLint
