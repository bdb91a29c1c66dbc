import ApiLint.Resolve
import ApiLint.Proofs.Path.Notation
import ApiLint.Proofs.Path.Numeral

/-!
# How a path is spelled does not matter

Two readers look at a step. One decides whether it is an index and the other, if it was none,
whether it is a key that reads as a number. The second would have caught every index as well
(`isDecimal_of_index?`), so a step names the same whether it was read first or not
(`Segment.asKey_parse`), and steps that name nothing can be put into a path or left out of it
anywhere (`Path.Interspersed`). Paths are looked for by their names alone, so no source can tell
such paths apart.
-/

namespace ApiLint

namespace Numeral

theorem IsDecimal.trim_eq {text : Text} (h : IsDecimal text) : text.trim = text := by
  have hblank : notationChars.all (fun c => isBlank c == false) = true := by decide
  exact Text.trim_of_not_blank fun c hc =>
    eq_of_beq (List.all_eq_true.mp hblank c (h.subset hc))

theorem rowOf_padded (zeros n : Nat) : RowOf "0123456789" (padded zeros n) :=
  ⟨padded_ne_nil zeros n, fun _ hc => isDecimal_iff.mp (isDecimal_of_mem_padded hc)⟩

/-- All spellings of an index are decimal notation. -/
theorem isDecimal_of_index? {raw : Text} {n : Nat} (h : index? raw = some n) : IsDecimal raw := by
  obtain ⟨_, zeros, hraw⟩ := index?_eq_some_iff.mp h
  have hmantissa : IsMantissa (padded zeros n) := .whole (rowOf_padded zeros n)
  rcases hraw with rfl | rfl
  · have hplus := IsDecimal.mk .plus hmantissa .absent
    rwa [List.append_nil] at hplus
  · have hbare := IsDecimal.mk .absent hmantissa .absent
    rwa [List.append_nil] at hbare

end Numeral

namespace Segment

/-- An index, or a key that is a number up to the white space around it. -/
def IsNumeric : Segment → Prop
  | .index _ => True
  | .key name => Numeral.IsNumeral name.trim

theorem asKey_eq_none_iff {segment : Segment} : segment.asKey = none ↔ segment.IsNumeric := by
  cases segment with
  | index n => exact iff_of_true rfl trivial
  | key name => exact asKey_key_eq_none_iff

/-- A step names what its spelling names. -/
theorem asKey_parse (raw : Text) : (parse raw).asKey = (key raw).asKey := by
  rw [parse]
  cases hindex : Numeral.index? raw with
  | none => rfl
  | some n =>
      have hdecimal := Numeral.isDecimal_of_index? hindex
      have hnumeral : Numeral.IsNumeral raw.trim := .decimal (hdecimal.trim_eq.symm ▸ hdecimal)
      exact (asKey_key_eq_none_iff.mpr hnumeral).symm

end Segment

namespace Path

/-- The second path is the first one with numeric steps put in, anywhere. -/
inductive Interspersed : Path → Path → Prop
  | nil : Interspersed [] []
  | keep {path longer : Path} (segment : Segment) (h : Interspersed path longer) :
      Interspersed (segment :: path) (segment :: longer)
  | insert {path longer : Path} {segment : Segment} (hnumeric : segment.IsNumeric)
      (h : Interspersed path longer) : Interspersed path (segment :: longer)

/-- No source tells the two paths apart, nor what asking it has for effects. -/
def Alike (path other : Path) : Prop :=
  (∀ source, path.resolve? source = other.resolve? source) ∧
    ∀ {m : Type → Type} [Monad m] (lineCount : m Nat) (line? : Nat → m (Option TokenLine)),
      path.resolveBy lineCount line? = other.resolveBy lineCount line?

/-- A path is looked for by its names alone. -/
theorem alike_of_keys_eq {path other : Path} (h : path.keys = other.keys) : path.Alike other := by
  have hby : ∀ {m : Type → Type} [Monad m] (lineCount : m Nat)
      (line? : Nat → m (Option TokenLine)),
      path.resolveBy lineCount line? = other.resolveBy lineCount line? := by
    intro m _ lineCount line?
    rw [resolveBy, resolveBy, h]
  refine ⟨fun source => ?_, hby⟩
  rw [resolve?, resolve?, hby]

theorem Interspersed.keys_eq {path longer : Path} (h : Interspersed path longer) :
    longer.keys = path.keys := by
  induction h with
  | nil => rfl
  | keep segment _ ih =>
      rw [keys, keys, List.filterMap_cons, List.filterMap_cons, ← keys, ← keys, ih]
  | insert hnumeric _ ih =>
      rw [keys, List.filterMap_cons_none (Segment.asKey_eq_none_iff.mpr hnumeric)]
      exact ih

theorem interspersed_filter (raws : List Text) :
    Interspersed ((raws.filter fun raw => !Numeral.isNumber raw).map .key) (raws.map .key) := by
  induction raws with
  | nil => exact .nil
  | cons raw raws ih =>
      rw [List.map_cons]
      cases hnumber : Numeral.isNumber raw with
      | true =>
          rw [List.filter_cons_of_neg (by simp [hnumber])]
          exact .insert (Numeral.isNumber_iff.mp hnumber) ih
      | false =>
          rw [List.filter_cons_of_pos (by simp [hnumber])]
          exact .keep (.key raw) ih

theorem keys_map_parse (raws : List Text) : keys (raws.map .parse) = keys (raws.map .key) := by
  rw [keys, keys, List.filterMap_map, List.filterMap_map]
  exact List.filterMap_congr fun raw _ => Segment.asKey_parse raw

/-- A step names the same whether its spelling was read or taken as a key, namely nothing if it
is a number and its spelling otherwise. So it makes no difference to any source whether the steps
of a path are read, taken as keys, or left out if they are numbers, nor which numeric steps are
put in. -/
theorem alike_of_spelling (raws : List Text) :
    (∀ raw, (Segment.parse raw).asKey = (Segment.key raw).asKey ∧
        ((Segment.parse raw).asKey = none ↔ Numeral.IsNumeral raw.trim) ∧
        ((Segment.parse raw).asKey = some raw ↔ ¬ Numeral.IsNumeral raw.trim)) ∧
      Alike (raws.map .parse) (raws.map .key) ∧
      Alike ((raws.filter fun raw => !Numeral.isNumber raw).map .key) (raws.map .key) ∧
      ∀ path longer, Interspersed path longer → Alike longer path := by
  refine ⟨fun raw => ?_, alike_of_keys_eq (keys_map_parse raws),
    alike_of_keys_eq (interspersed_filter raws).keys_eq.symm,
    fun path longer h => alike_of_keys_eq h.keys_eq⟩
  rw [Segment.asKey_parse]
  exact ⟨rfl, Segment.asKey_key_eq_none_iff, Segment.asKey_key_eq_some_iff⟩

/-- A padded index, a number too large for one, and two numeric steps put in. -/
theorem alike_of_padded_index :
    let lines : List TokenLine := [[⟨[KeyScope.yaml.name], "paths".toList⟩, ⟨[], ":".toList⟩],
      [⟨[], "  ".toList⟩, ⟨[KeyScope.yaml.name], "/pets".toList⟩, ⟨[], ": {}".toList⟩]]
    let source : TokenSource := ⟨1, fun n => lines[n]?⟩
    let raws : List Text := ["+007".toList, "paths".toList, "18446744073709551616".toList,
      "/pets".toList]
    let longer : Path := [.index 3, .key "paths".toList, .key " 0x1F ".toList, .key "/pets".toList]
    let range := Range.onLine 1 2 7
    Path.resolve? (raws.map .parse) source = some range ∧ longer.resolve? source = some range := by
  intro lines source raws longer range
  obtain ⟨_, hparse, hfilter, hinsert⟩ := alike_of_spelling raws
  have hdigits : Numeral.RowOf "0123456789abcdefABCDEF" "1F".toList :=
    ((show Numeral.AreDigits 16 _ by decide +kernel).rowOf_iff _).mpr (by decide)
  have hliteral : Numeral.IsLiteral "0x1F".toList := .hexadecimal (Or.inl rfl) hdigits
  have hnumeric : (Segment.key " 0x1F ".toList).IsNumeric := .literal hliteral
  have hlonger : Interspersed [.key "paths".toList, .key "/pets".toList] longer :=
    .insert trivial (.keep _ (.insert hnumeric (.keep _ .nil)))
  have hfound : Path.resolve? [.key "paths".toList, .key "/pets".toList] source = some range := by
    decide
  exact ⟨(hparse.1 source).trans ((hfilter.1 source).symm.trans hfound),
    ((hinsert _ _ hlonger).1 source).trans hfound⟩

end Path

end ApiLint
