import Mathlib.Data.List.Basic
import ApiLint.Pointer
import ApiLint.Proofs.Path.Numeral
import ApiLint.Proofs.Text.Lines

/-!
# Paths read from pointers

A pointer that is written out is read back step by step (`ofPointer_render`): no step of it
holds a slash any more, so cutting at the slashes finds the steps again
(`Pointer.split_render`), and `unescape` undoes `escape`. It does so in two passes over the step,
first for slashes and then for tildes; what stands between the two passes is `escapeTildes`.
Writing what was read gives the same pointer unless a step was a padded number.

A text that goes on after a slash where another one ends is read as a path that goes on after
the path of the other (`ofPointer_append`).
-/

namespace ApiLint

namespace Text

theorem replacePair_cons {first second new c : Char} (h : c ≠ first) (rest : Text) :
    replacePair first second new (c :: rest) = c :: replacePair first second new rest := by
  cases rest with
  | nil => rfl
  | cons d rest => rw [replacePair, if_neg fun hpair => h hpair.1]

theorem replacePair_pair (first second new : Char) (rest : Text) :
    replacePair first second new (first :: second :: rest) =
      new :: replacePair first second new rest := by
  rw [replacePair, if_pos ⟨rfl, rfl⟩]

theorem replacePair_cons_cons {first second new d : Char} (h : d ≠ second) (rest : Text) :
    replacePair first second new (first :: d :: rest) =
      first :: replacePair first second new (d :: rest) := by
  rw [replacePair, if_neg fun hpair => h hpair.2]

end Text

namespace Pointer

theorem escape_cons (c : Char) (step : Text) :
    escape (c :: step) =
      (if c = '~' then ['~', '0'] else if c = '/' then ['~', '1'] else [c]) ++ escape step :=
  List.flatMap_cons

theorem slash_not_mem_escape (step : Text) : '/' ∉ escape step := by
  induction step with
  | nil => simp [escape]
  | cons c step ih =>
      rw [escape_cons, List.mem_append, not_or]
      refine ⟨?_, ih⟩
      split
      · decide
      · next hslash =>
          split
          · decide
          · next hne => simpa using Ne.symm hne

/-- The step with its tildes escaped, and nothing else. -/
def escapeTildes (step : Text) : Text :=
  step.flatMap fun c => if c = '~' then ['~', '0'] else [c]

theorem escapeTildes_cons (c : Char) (step : Text) :
    escapeTildes (c :: step) = (if c = '~' then ['~', '0'] else [c]) ++ escapeTildes step :=
  List.flatMap_cons

/-- The first pass brings the slashes back. -/
theorem replacePair_escape (step : Text) :
    (escape step).replacePair '~' '1' '/' = escapeTildes step := by
  induction step with
  | nil => rfl
  | cons c step ih =>
      rw [escape_cons, escapeTildes_cons]
      by_cases htilde : c = '~'
      · rw [if_pos htilde, if_pos htilde]
        show Text.replacePair '~' '1' '/' ('~' :: '0' :: escape step) = _
        rw [Text.replacePair_cons_cons (by decide), Text.replacePair_cons (by decide), ih]
        rfl
      · rw [if_neg htilde, if_neg htilde]
        by_cases hslash : c = '/'
        · rw [if_pos hslash, hslash]
          show Text.replacePair '~' '1' '/' ('~' :: '1' :: escape step) = _
          rw [Text.replacePair_pair, ih]
          rfl
        · rw [if_neg hslash]
          show Text.replacePair '~' '1' '/' (c :: escape step) = _
          rw [Text.replacePair_cons htilde, ih]
          rfl

/-- The second pass brings the tildes back. -/
theorem replacePair_escapeTildes (step : Text) :
    (escapeTildes step).replacePair '~' '0' '~' = step := by
  induction step with
  | nil => rfl
  | cons c step ih =>
      rw [escapeTildes_cons]
      by_cases htilde : c = '~'
      · rw [if_pos htilde, htilde]
        show Text.replacePair '~' '0' '~' ('~' :: '0' :: escapeTildes step) = _
        rw [Text.replacePair_pair, ih]
      · rw [if_neg htilde]
        show Text.replacePair '~' '0' '~' (c :: escapeTildes step) = _
        rw [Text.replacePair_cons htilde, ih]

theorem render_cons (step : Text) (pointer : Pointer) :
    render (step :: pointer) = '/' :: (escape step ++ render pointer) := by
  rw [render, List.flatMap_cons]
  rfl

theorem render_append (outer more : Pointer) :
    render (outer ++ more) = render outer ++ render more :=
  List.flatMap_append

/-- Between the slashes of a written pointer stand its steps, and nothing before the first. -/
theorem split_render (pointer : Pointer) :
    Text.split '/' pointer.render = [] :: pointer.map escape := by
  induction pointer with
  | nil => rfl
  | cons step pointer ih =>
      have hstep : Text.split '/' (escape step) = [escape step] :=
        Text.split_of_not_mem (slash_not_mem_escape step)
      rw [render_cons, Text.split_cons_self, List.map_cons]
      congr 1
      cases pointer with
      | nil =>
          rw [show render [] = [] from rfl, List.append_nil, hstep]
          rfl
      | cons next more =>
          -- What follows starts with a slash, at which `ih` has cut as well.
          rw [render_cons, Text.split_cons_self] at ih
          injection ih with _ ih
          rw [render_cons, Text.split_append_cons, hstep, ih]
          rfl

theorem unescape_escape (step : Text) : Path.unescape (escape step) = step := by
  rw [Path.unescape, replacePair_escape, replacePair_escapeTildes]

theorem escape_injective : Function.Injective escape :=
  Function.LeftInverse.injective unescape_escape

theorem render_injective : Function.Injective render := by
  intro first second h
  have hsplit := congrArg (Text.split '/') h
  rw [split_render, split_render] at hsplit
  injection hsplit with _ hsteps
  exact escape_injective.list_map hsteps

/-- Where the text of a pointer goes on with a slash, the pointer goes on with a step. -/
theorem exists_eq_append_of_render {outer pointer : Pointer} {rest : Text}
    (h : pointer.render = outer.render ++ '/' :: rest) :
    ∃ step more, pointer = outer ++ step :: more := by
  have hsplit := congrArg (Text.split '/') h
  rw [Text.split_append_cons, split_render, split_render, List.cons_append] at hsplit
  injection hsplit with _ hsteps
  obtain ⟨front, back, rfl, hfront, hback⟩ := List.map_eq_append_iff.mp hsteps
  rw [escape_injective.list_map hfront]
  cases back with
  | nil => exact absurd hback.symm (Text.split_ne_nil '/' rest)
  | cons step more => exact ⟨step, more, rfl⟩

end Pointer

namespace Path

/-- What follows after a slash comes after the path so far. -/
theorem ofPointer_append (pointer rest : Text) :
    ofPointer (pointer ++ '/' :: rest) = ofPointer pointer ++ ofPointer ('/' :: rest) := by
  rw [ofPointer, ofPointer, ofPointer, Text.split_append_cons, Text.split_cons_self]
  cases hpointer : Text.split '/' pointer with
  | nil => exact absurd hpointer (Text.split_ne_nil '/' pointer)
  | cons piece more =>
      rw [← List.map_append]
      rfl

/-- Reading a pointer that was written out gives its steps, each read on its own. -/
theorem ofPointer_render (pointer : Pointer) :
    ofPointer pointer.render = pointer.map Segment.parse := by
  rw [ofPointer, Pointer.split_render, List.drop_succ_cons, List.drop_zero, List.map_map]
  exact List.map_congr_left fun step _ => congrArg Segment.parse (Pointer.unescape_escape step)

/-- Writing the steps that were read is writing the pointer again if each is written as it was
spelled. -/
theorem render_display_ofPointer_iff (pointer : Pointer) :
    Pointer.render ((ofPointer pointer.render).map Segment.display) = pointer.render ↔
      ∀ step ∈ pointer, ¬ Numeral.IsPadded step := by
  have hself : (pointer.map fun step => (Segment.parse step).display) = pointer ↔
      ∀ step ∈ pointer, (Segment.parse step).display = step := by
    conv_lhs => rhs; rw [← List.map_id pointer]
    exact List.map_inj_left
  rw [Pointer.render_injective.eq_iff, ofPointer_render, List.map_map]
  exact hself.trans (forall₂_congr fun _ _ => Segment.display_parse_eq_iff)

/-- Reading a pointer undoes writing it, with each escape undone once; writing what was read
gives the pointer again unless a step was a number with a plus sign or zeros in front. -/
theorem ofPointer_render_spec (pointer : Pointer) :
    ofPointer pointer.render = pointer.map Segment.parse ∧
      (∀ step : Text, unescape (Pointer.escape step) = step) ∧
      (pointer.render = [] ↔ pointer = []) ∧
      (Pointer.render ((ofPointer pointer.render).map Segment.display) = pointer.render ↔
        ∀ step ∈ pointer, ¬ Numeral.IsPadded step) :=
  ⟨ofPointer_render pointer, Pointer.unescape_escape,
    Pointer.render_injective.eq_iff' rfl, render_display_ofPointer_iff pointer⟩

example : ofPointer "/~01/~001/a~1b//+07".toList =
    [.key "~1".toList, .key "~01".toList, .key "a/b".toList, .key [], .index 7] := by decide

end Path

end ApiLint
