import ApiLint.Keys

/-!
# The order of keys

Keys are ordered by where they start, and keys that start at the same place keep the order in
which they were found. That leaves no choice: an ordered list is determined by what starts at
each place (`KeySpan.eq_of_startingAt_eq`), so there is exactly one list that is sorted so
(`KeySpan.stablySorted_iff`).
-/

namespace ApiLint.KeySpan

/-- Keys ordered by where they start. -/
def sortByStart (keys : List KeySpan) : List KeySpan :=
  keys.mergeSort fun a b => decide (a.outer.start ≤ b.outer.start)

/-- The keys of a list that start at one place. -/
def startingAt (start : Nat) (keys : List KeySpan) : List KeySpan :=
  keys.filter fun key => key.outer.start == start

/-- The same keys, ordered by where they start; those that start at the same place keep their
order. -/
structure StablySorted (keys sorted : List KeySpan) : Prop where
  perm : sorted.Perm keys
  ascending : sorted.Pairwise fun a b => a.outer.start ≤ b.outer.start
  stable : ∀ start, startingAt start sorted = startingAt start keys

theorem mem_startingAt {start : Nat} {keys : List KeySpan} {key : KeySpan} :
    key ∈ startingAt start keys ↔ key ∈ keys ∧ key.outer.start = start := by
  rw [startingAt, List.mem_filter, beq_iff_eq]

theorem startingAt_cons (start : Nat) (key : KeySpan) (rest : List KeySpan) :
    startingAt start (key :: rest) =
      if key.outer.start = start then key :: startingAt start rest else startingAt start rest := by
  simp only [startingAt, List.filter_cons, beq_iff_eq]

theorem sortByStart_stablySorted (keys : List KeySpan) : StablySorted keys (sortByStart keys) := by
  have htrans : ∀ a b c : KeySpan, decide (a.outer.start ≤ b.outer.start) = true →
      decide (b.outer.start ≤ c.outer.start) = true →
        decide (a.outer.start ≤ c.outer.start) = true := by
    intro a b c hab hbc
    exact decide_eq_true (Nat.le_trans (of_decide_eq_true hab) (of_decide_eq_true hbc))
  have htotal : ∀ a b : KeySpan, (decide (a.outer.start ≤ b.outer.start) ||
      decide (b.outer.start ≤ a.outer.start)) = true := by
    intro a b
    rw [Bool.or_eq_true, decide_eq_true_iff, decide_eq_true_iff]
    exact Nat.le_total _ _
  have hperm : (sortByStart keys).Perm keys := List.mergeSort_perm keys _
  refine ⟨hperm, ?_, fun start => ?_⟩
  · exact (List.pairwise_mergeSort htrans htotal keys).imp fun hab => of_decide_eq_true hab
  · -- The keys that start here are in order already. So sorting keeps them as they are, and no
    -- other key starts here.
    have hordered : (startingAt start keys).Pairwise
        fun a b => decide (a.outer.start ≤ b.outer.start) = true := by
      refine List.pairwise_iff_forall_sublist.mpr fun {a b} hsub => ?_
      have ha := (mem_startingAt.mp (hsub.subset List.mem_cons_self)).2
      have hb := (mem_startingAt.mp (hsub.subset (List.mem_cons_of_mem _ List.mem_cons_self))).2
      exact decide_eq_true (Nat.le_of_eq (ha.trans hb.symm))
    have hkept : (startingAt start keys).Sublist (sortByStart keys) :=
      List.sublist_mergeSort htrans htotal hordered List.filter_sublist
    have hsub : (startingAt start (startingAt start keys)).Sublist
        (startingAt start (sortByStart keys)) := hkept.filter _
    have hidem : startingAt start (startingAt start keys) = startingAt start keys :=
      List.filter_eq_self.mpr fun key hkey => beq_iff_eq.mpr (mem_startingAt.mp hkey).2
    rw [hidem] at hsub
    exact (hsub.eq_of_length (hperm.filter _).length_eq.symm).symm

theorem mem_iff_of_startingAt_eq {a b : List KeySpan}
    (h : ∀ start, startingAt start a = startingAt start b) (key : KeySpan) :
    key ∈ a ↔ key ∈ b := by
  have hkey : ∀ keys : List KeySpan, key ∈ keys ↔ key ∈ startingAt key.outer.start keys := by
    intro keys
    rw [mem_startingAt, and_iff_left rfl]
  rw [hkey a, hkey b, h]

theorem start_le_of_ascending {first key : KeySpan} {rest : List KeySpan}
    (h : (first :: rest).Pairwise fun a b => a.outer.start ≤ b.outer.start)
    (hmem : key ∈ first :: rest) : first.outer.start ≤ key.outer.start := by
  rcases List.mem_cons.mp hmem with rfl | hmem
  · exact Nat.le_refl _
  · exact (List.pairwise_cons.mp h).1 key hmem

/-- An ordered list is determined by the keys that start at each place. -/
theorem eq_of_startingAt_eq : ∀ {a b : List KeySpan},
    (a.Pairwise fun x y => x.outer.start ≤ y.outer.start) →
    (b.Pairwise fun x y => x.outer.start ≤ y.outer.start) →
    (∀ start, startingAt start a = startingAt start b) → a = b
  | [], b, _, _, h => by
      refine (List.eq_nil_iff_forall_not_mem.mpr fun key hkey => ?_).symm
      exact List.not_mem_nil ((mem_iff_of_startingAt_eq h key).mpr hkey)
  | x :: a, [], _, _, h =>
      absurd ((mem_iff_of_startingAt_eq h x).mp List.mem_cons_self) List.not_mem_nil
  | x :: a, y :: b, ha, hb, h => by
      have hmem := mem_iff_of_startingAt_eq h
      have hstart : x.outer.start = y.outer.start :=
        Nat.le_antisymm (start_le_of_ascending ha ((hmem y).mpr List.mem_cons_self))
          (start_le_of_ascending hb ((hmem x).mp List.mem_cons_self))
      have hfirst := h x.outer.start
      rw [startingAt_cons, startingAt_cons, if_pos rfl, if_pos hstart.symm] at hfirst
      injection hfirst with hxy hrest
      subst hxy
      rw [eq_of_startingAt_eq (List.pairwise_cons.mp ha).2 (List.pairwise_cons.mp hb).2]
      intro start
      have hother := h start
      rw [startingAt_cons, startingAt_cons] at hother
      by_cases hx : x.outer.start = start
      · rw [← hx]
        exact hrest
      · rwa [if_neg hx, if_neg hx] at hother

/-- There is one stable sort of a list of keys. -/
theorem stablySorted_iff {keys sorted : List KeySpan} :
    StablySorted keys sorted ↔ sorted = sortByStart keys := by
  have hsort := sortByStart_stablySorted keys
  constructor
  · intro h
    exact eq_of_startingAt_eq h.ascending hsort.ascending fun start =>
      (h.stable start).trans (hsort.stable start).symm
  · rintro rfl
    exact hsort

end ApiLint.KeySpan
