import ApiLint.Proofs.Validator

/-!
# Which alternatives belong to a choice

Whether a line of the detailed output belongs to a choice is decided by the texts of two
pointers: one has to start with the other and a slash. Cutting such a text at its slashes gives
the steps back (`Pointer.split_render`), so texts that start alike come from steps that start
alike (`leadsInside_render_iff`), and the text of an item with number 1 is no start of that with
number 10.

With texts out of the picture, a line that belongs to two choices is about a part of the document
below both, and of two places above a third one always is above the other.
-/

namespace ApiLint

namespace Schema

theorem leadsInside_render_iff {outer pointer : Pointer} :
    leadsInside outer.render pointer.render = true ↔
      outer <+: pointer ∧ outer.length < pointer.length := by
  rw [leadsInside_iff]
  constructor
  · rintro ⟨rest, hrest⟩
    obtain ⟨step, more, rfl⟩ := Pointer.exists_eq_append_of_render hrest
    exact ⟨List.prefix_append outer _, by simp⟩
  · rintro ⟨⟨more, rfl⟩, hlonger⟩
    cases more with
    | nil => simp at hlonger
    | cons step more =>
        rw [Pointer.render_append, Pointer.render_cons]
        exact ⟨_, rfl⟩

/-- A place is the same or lies inside exactly if its steps start with those of the other. -/
theorem sameOrInside_iff {outer pointer : Pointer} :
    (pointer.render == outer.render || leadsInside outer.render pointer.render) = true ↔
      outer <+: pointer := by
  rw [Bool.or_eq_true, beq_iff_eq, leadsInside_render_iff]
  constructor
  · rintro (hsame | ⟨hinside, _⟩)
    · rw [Pointer.render_injective hsame]
    · exact hinside
  · intro hstarts
    rcases Nat.lt_or_ge outer.length pointer.length with hlonger | hshort
    · exact Or.inr ⟨hstarts, hlonger⟩
    · exact Or.inl (congrArg _ (hstarts.eq_of_length_le hshort).symm)

/-- The alternatives of a choice, told by steps. -/
theorem alternativesOf_eq_filter (location target : Pointer) (units : List OutputUnit) :
    alternativesOf location target units = units.filter fun unit =>
      decide (location <+: unit.location ∧ location.length < unit.location.length ∧
        target <+: unit.target) := by
  rw [alternativesOf]
  refine List.filter_congr fun unit _ => ?_
  rw [Bool.eq_iff_iff, Bool.and_eq_true, leadsInside_render_iff, sameOrInside_iff,
    decide_eq_true_iff, and_assoc]

theorem target_prefix_of_mem_alternativesOf {location target : Pointer}
    {units : List OutputUnit} {unit : OutputUnit}
    (h : unit ∈ alternativesOf location target units) : target <+: unit.target := by
  rw [alternativesOf_eq_filter, List.mem_filter, decide_eq_true_iff] at h
  exact h.2.2.2

/-- What a finding about a choice holds inside are the alternatives, also if there are none. -/
theorem Finding.inner_detail {finding : Finding} (h : finding.cause = .oneOfNone)
    (units : List OutputUnit) :
    (finding.detail units).inner =
      (alternativesOf finding.location finding.target units).map OutputUnit.detail := by
  rw [Finding.detail, h]
  dsimp only
  cases alternativesOf finding.location finding.target units with
  | nil => rfl
  | cons first more => rfl

/-- A line of the detailed output belongs to a choice exactly if its keyword is reached through
the choice by at least one step more, and it is about the same part of the document or one
inside; lines keep their order. So choices about parts of which neither lies inside the other
share no line, even if they are the same keyword. -/
theorem alternativesOf_spec (units : List OutputUnit) :
    (∀ location target : Pointer, alternativesOf location target units =
      units.filter fun unit => decide (location <+: unit.location ∧
        location.length < unit.location.length ∧ target <+: unit.target)) ∧
    (∀ finding : Finding, finding.cause = .oneOfNone → (finding.detail units).inner =
      (alternativesOf finding.location finding.target units).map OutputUnit.detail) ∧
    ∀ location other target apart : Pointer, ¬ target <+: apart → ¬ apart <+: target →
      ∀ unit, unit ∈ alternativesOf location target units →
        unit ∉ alternativesOf other apart units := by
  refine ⟨fun location target => alternativesOf_eq_filter location target units,
    fun finding hcause => finding.inner_detail hcause units, ?_⟩
  intro location other target apart htarget hapart unit hunit hother
  have hfirst := target_prefix_of_mem_alternativesOf hunit
  have hsecond := target_prefix_of_mem_alternativesOf hother
  rcases List.prefix_or_prefix_of_prefix hfirst hsecond with hstarts | hstarts
  · exact htarget hstarts
  · exact hapart hstarts

/-- One choice for all items of a list: what item 10 misses is not told of item 1. -/
theorem alternativesOf_items_one_and_ten :
    let item : Nat → Pointer := Pointer.index ["a/b".toList]
    let choice : Pointer := ["items".toList, "oneOf".toList]
    let unit : OutputUnit := ⟨choice ++ ["0".toList], (item 10).name "", "no"⟩
    let finding : Finding := ⟨.oneOfNone, .null, item 10, choice⟩
    (finding.detail [unit]).inner = [unit.detail] ∧
      unit ∉ alternativesOf choice (item 1) [unit] := by
  intro item choice unit finding
  obtain ⟨hfilter, hinner, hapart⟩ := alternativesOf_spec [unit]
  have hten : alternativesOf choice (item 10) [unit] = [unit] :=
    (hfilter choice (item 10)).trans (List.filter_cons_of_pos (by decide))
  refine ⟨?_, ?_⟩
  · rw [hinner finding rfl]
    exact congrArg (List.map OutputUnit.detail) hten
  · refine hapart choice choice (item 10) (item 1) (by decide) (by decide) unit ?_
    rw [hten]
    exact List.mem_singleton_self unit

end Schema

end ApiLint
