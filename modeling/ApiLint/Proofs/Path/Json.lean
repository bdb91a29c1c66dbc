import Mathlib.Data.List.Forall2
import ApiLint.Path.Json
import ApiLint.Proofs.Json.Written

/-!
# Paths kept as JSON

A step and the JSON value it is kept as determine each other: a value is read as a step if and only
if it is what that step is written as (`Segment.ofJson?_eq_some_iff`). The only steps that are
written and not read are indices that do not fit in 64 bits. The same then holds of paths, which are
kept as lists (`Path.ofJson_eq_ok_iff`), and what can be said of writing and reading in either order
follows from that.

A value may be tried as an index first and as a name then. As no value is both, the order of the two
makes no difference, and the digits of a name are never taken for an index.
-/

namespace ApiLint

open Json Json.Reader

namespace Segment

/-- Whether JSON keeps the step: an index if it fits in 64 bits, a key in any case. -/
def FitsJson : Segment → Prop
  | .index n => n < UInt64.size
  | .key _ => True

/-- A JSON value that is a text, or a number without sign, point and exponent that fits in 64
bits. -/
def IsStep (item : Json) : Prop :=
  (∃ s, item = .string s) ∨ ∃ n : Nat, n < UInt64.size ∧ item = .number (.int n)

theorem ofJson?_eq_some_iff {item : Json} {segment : Segment} :
    ofJson? item = some segment ↔ item = segment.toJson ∧ segment.FitsJson := by
  constructor
  · intro h
    rw [ofJson?.eq_def] at h
    split at h
    · next n =>
        split at h
        · next hn =>
            cases h
            obtain ⟨m, rfl⟩ := Int.eq_ofNat_of_zero_le hn.1
            exact ⟨rfl, Int.ofNat_lt.mp hn.2⟩
        · cases h
    · next s =>
        cases h
        refine ⟨?_, trivial⟩
        rw [toJson, String.ofList_toList]
    · cases h
  · rintro ⟨rfl, hfits⟩
    cases segment with
    | index n =>
        have hn : 0 ≤ (n : Int) ∧ (n : Int) < UInt64.size :=
          ⟨Int.natCast_nonneg n, Int.ofNat_lt.mpr hfits⟩
        rw [toJson, ofJson?, if_pos hn, Int.toNat_natCast]
    | key name => rw [toJson, ofJson?, String.toList_ofList]

theorem isStep_iff {item : Json} :
    IsStep item ↔ ∃ segment : Segment, ofJson? item = some segment := by
  simp only [ofJson?_eq_some_iff]
  constructor
  · rintro (⟨s, rfl⟩ | ⟨n, hn, rfl⟩)
    · exact ⟨.key s.toList, by rw [toJson, String.ofList_toList], trivial⟩
    · exact ⟨.index n, rfl, hn⟩
  · rintro ⟨segment, rfl, hfits⟩
    cases segment with
    | index n => exact Or.inr ⟨n, hfits, rfl⟩
    | key name => exact Or.inl ⟨String.ofList name, rfl⟩

/-! ## One reader after the other -/

def indexOfJson? : Json → Option Nat
  | .number (.int n) => if 0 ≤ n ∧ n < UInt64.size then some n.toNat else none
  | _ => none

def nameOfJson? : Json → Option Text
  | .string s => some s.toList
  | _ => none

/-- A step is read as an index where that can be done, else as a name. -/
theorem ofJson?_eq_or (item : Json) :
    ofJson? item =
      ((indexOfJson? item).map Segment.index).or ((nameOfJson? item).map Segment.key) := by
  rcases item with _ | b | (n | x) | s | items | members
  · rfl
  · rfl
  · rw [ofJson?, indexOfJson?]
    split
    · rfl
    · rfl
  · rfl
  · rfl
  · rfl
  · rfl

/-! ## Steps written out -/

theorem reads_prettyAt {segment : Segment} (h : segment.FitsJson) (level : Nat) :
    Reads 0 (prettyAt level segment.toJson) segment.toJson := by
  cases segment with
  | index n => exact reads_natToString h
  | key name => exact reads_quote (String.ofList name)

end Segment

namespace Path

theorem ofItems_eq_ok_iff {items : List Json} {path : Path} :
    ofItems items = .ok path ↔
      List.Forall₂ (fun item segment => Segment.ofJson? item = some segment) items path := by
  induction items generalizing path with
  | nil =>
      rw [ofItems, List.forall₂_nil_left_iff, Except.ok.injEq]
      exact eq_comm
  | cons item rest ih =>
      rw [ofItems, List.forall₂_cons_left_iff]
      cases hitem : Segment.ofJson? item with
      | none => simp
      | some segment =>
          simp only [← ih]
          cases hrest : ofItems rest with
          | error e => simp
          | ok found => simp [eq_comm]

/-- A value is read as a path if and only if it is what that path is written as. -/
theorem ofJson_eq_ok_iff {value : Json} {path : Path} :
    ofJson value = .ok path ↔ value = path.toJson ∧ ∀ segment ∈ path, segment.FitsJson := by
  constructor
  · intro h
    rw [ofJson.eq_def] at h
    split at h
    · next items =>
        have hsteps := ofItems_eq_ok_iff.mp h
        clear h
        rw [toJson, Json.array.injEq]
        induction hsteps with
        | nil => exact ⟨rfl, List.forall_mem_nil _⟩
        | @cons item segment items path hitem _ ih =>
            obtain ⟨rfl, hfits⟩ := Segment.ofJson?_eq_some_iff.mp hitem
            rw [List.map_cons, List.cons.injEq, List.forall_mem_cons]
            exact ⟨⟨rfl, ih.1⟩, hfits, ih.2⟩
    · cases h
  · rintro ⟨rfl, hfits⟩
    rw [toJson, ofJson, ofItems_eq_ok_iff, List.forall₂_map_left_iff, List.forall₂_same]
    exact fun segment hmem => Segment.ofJson?_eq_some_iff.mpr ⟨rfl, hfits segment hmem⟩

theorem exists_ofItems_eq_ok_iff {items : List Json} :
    (∃ path, ofItems items = .ok path) ↔ ∀ item ∈ items, Segment.IsStep item := by
  simp only [ofItems_eq_ok_iff]
  induction items with
  | nil => exact iff_of_true ⟨[], .nil⟩ (List.forall_mem_nil _)
  | cons item rest ih =>
      rw [List.forall_mem_cons, ← ih, Segment.isStep_iff]
      constructor
      · rintro ⟨path, h⟩
        cases h with
        | cons hitem hrest => exact ⟨⟨_, hitem⟩, _, hrest⟩
      · rintro ⟨⟨segment, hitem⟩, path, hrest⟩
        exact ⟨segment :: path, .cons hitem hrest⟩

/-- The values that are paths are the lists of steps. -/
theorem exists_ofJson_eq_ok_iff {value : Json} :
    (∃ path, ofJson value = .ok path) ↔
      ∃ items, value = .array items ∧ ∀ item ∈ items, Segment.IsStep item := by
  constructor
  · rintro ⟨path, h⟩
    obtain ⟨rfl, _⟩ := ofJson_eq_ok_iff.mp h
    exact ⟨_, rfl, exists_ofItems_eq_ok_iff.mp ⟨path, h⟩⟩
  · rintro ⟨items, rfl, hsteps⟩
    exact exists_ofItems_eq_ok_iff.mpr hsteps

theorem prettyItems_eq (level : Nat) (items : List Json) :
    prettyItems level items = items.map (prettyAt level) := by
  induction items with
  | nil => rw [prettyItems, List.map_nil]
  | cons item rest ih => rw [prettyItems, ih, List.map_cons]

/-- A path that is written out is read back. -/
theorem read_pretty_toJson {path : Path} (h : ∀ segment ∈ path, segment.FitsJson) :
    Json.read (pretty path.toJson ++ "\n") = .ok path.toJson := by
  have hreads : List.Forall₂ (Reads 0) (prettyItems 1 (path.map Segment.toJson))
      (path.map Segment.toJson) := by
    rw [prettyItems_eq, List.map_map, List.forall₂_map_left_iff, List.forall₂_map_right_iff,
      List.forall₂_same]
    exact fun segment hmem => Segment.reads_prettyAt (h segment hmem) 1
  exact read_of_reads (Reads.list 0 hreads) (by decide)

/-- Writing and reading a path lose nothing, in either order: a path is read from what it is written
as if all its indices fit, also from the text of that; the values that are read are the lists of
steps, and each is what the path read from it is written as. -/
theorem ofJson_toJson_spec :
    (∀ path : Path, ofJson path.toJson = .ok path ↔ ∀ segment ∈ path, segment.FitsJson) ∧
      (∀ path : Path, (∀ segment ∈ path, segment.FitsJson) →
        Json.read (pretty path.toJson ++ "\n") = .ok path.toJson) ∧
      (∀ value : Json, (∃ path, ofJson value = .ok path) ↔
        ∃ items, value = .array items ∧ ∀ item ∈ items, Segment.IsStep item) ∧
      (∀ value path, ofJson value = .ok path → path.toJson = value) ∧
      ∀ item, Segment.ofJson? item =
        ((Segment.indexOfJson? item).map .index).or ((Segment.nameOfJson? item).map .key) := by
  refine ⟨fun path => ?_, fun path => read_pretty_toJson, fun value => exists_ofJson_eq_ok_iff,
    fun value path h => (ofJson_eq_ok_iff.mp h).1.symm, Segment.ofJson?_eq_or⟩
  rw [ofJson_eq_ok_iff]
  exact and_iff_right rfl

/-- An index and a name of the same digits, the greatest index, and a name that needs escapes. -/
theorem ofJson_toJson_of_digits :
    let path : Path := [.index 5, .key "5".toList, .index 18446744073709551615, .key "\"\n".toList]
    (∀ segment ∈ path, segment.FitsJson) ∧ ofJson path.toJson = .ok path ∧
      Json.read (pretty path.toJson ++ "\n") = .ok path.toJson ∧
      ¬ ∃ path, ofJson (.array [.number (.int 18446744073709551616)]) = .ok path := by
  intro path
  have hfits : ∀ segment ∈ path, segment.FitsJson := by
    simp [path, Segment.FitsJson, UInt64.size]
  obtain ⟨hwritten, htext, hread, _⟩ := ofJson_toJson_spec
  refine ⟨hfits, (hwritten path).mpr hfits, htext path hfits, fun hsome => ?_⟩
  obtain ⟨items, hitems, hsteps⟩ := (hread _).mp hsome
  cases hitems
  rcases hsteps _ List.mem_cons_self with ⟨s, hs⟩ | ⟨n, hn, hint⟩
  · cases hs
  · cases hint
    exact absurd hn (by decide)

end Path

end ApiLint
