import Mathlib
import ApiLint.Diagnostic
import ApiLint.Proofs.Resolve

/-!
# The diagnostics of an error

An error without details gives one diagnostic, an error with details one for each detail that
is shown: the alternatives of a choice that has some, the detail itself otherwise. None is lost,
so their number can be read off the error.

Their ranges come from two places. A path that is found lies over a piece of a line
(`Path.exists_piece_of_resolve?`), and what is not found is about the whole document. Either
way the range lies within the document and can be read there (`Range.LiesIn`), and the two
cases can be told apart unless the name found is all that the document has
(`Path.located_eq_wholeDocument_iff`).
-/

namespace ApiLint

/-- The range lies within the document, stops no earlier than it starts, and has a text. -/
structure Range.LiesIn (range : Range) (text : Text) : Prop where
  start_le_stop : range.start ≤ range.stop
  stop_le : range.stop ≤ (Range.wholeDocument text).stop
  exists_piece : ∃ piece, range.slice text = some piece

namespace Range

theorem wholeDocument_liesIn (text : Text) : (wholeDocument text).LiesIn text where
  start_le_stop := by
    rw [wholeDocument_stop]
    exact (Position.origin_existsIn text).le_after
  stop_le := Or.inl rfl
  exists_piece := ⟨text, slice_wholeDocument text⟩

theorem onLine_piece_liesIn {text before piece rest : Text} {n : Nat}
    (h : text.lines[n]? = some (before ++ (piece ++ rest))) :
    (onLine n before.length (before.length + piece.length)).LiesIn text where
  start_le_stop := Position.le_iff.mpr (Or.inr ⟨rfl, Nat.le_add_right _ _⟩)
  stop_le := by
    have hexists : Position.ExistsIn ⟨n, before.length + piece.length⟩ text := ⟨_, h, by simp⟩
    rw [wholeDocument_stop]
    exact hexists.le_after
  exists_piece := ⟨piece, slice_piece h⟩

end Range

section Located

variable {text : Text} {source : TokenSource} (path : Path)

/-- Where the source has a path; the whole document if it does not have it. -/
def Path.located (text : Text) (source : TokenSource) : Range :=
  (path.resolve? source).getD (.wholeDocument text)

theorem Path.located_liesIn (hsource : source.Spells text) :
    (path.located text source).LiesIn text := by
  rw [located]
  cases hfound : path.resolve? source with
  | none => exact Range.wholeDocument_liesIn text
  | some range =>
      obtain ⟨n, before, name, rest, hline, rfl, _⟩ := exists_piece_of_resolve? hsource hfound
      exact Range.onLine_piece_liesIn hline

/-- A range is that of the whole document if nothing is found, or nothing but all of it. -/
theorem Path.located_eq_wholeDocument_iff (hsource : source.Spells text) :
    path.located text source = .wholeDocument text ↔
      ¬ (path.keys ≠ [] ∧ path.keys.Sublist (source.placedNames.map PlacedName.name)) ∨
        path.keys.getLast? = some text := by
  rw [← isSome_resolve?_iff, located]
  cases hfound : path.resolve? source with
  | none => simp
  | some range =>
      obtain ⟨n, before, name, rest, hline, rfl, hlast⟩ := exists_piece_of_resolve? hsource hfound
      rw [hlast, Option.getD_some, Range.onLine_piece_eq_wholeDocument_iff hline]
      simp

end Located

namespace Detail

/-- The alternatives of a choice are shown instead of it, if there are any. -/
theorem shown_eq (detail : Detail) :
    detail.shown = if detail.inner.isEmpty then [detail] else detail.inner := by
  rw [shown.eq_def]
  cases detail with
  | single code message path => rfl
  | oneOf code message path inner =>
      cases inner with
      | nil => rfl
      | cons first more => rfl

theorem length_shown (detail : Detail) : detail.shown.length = max 1 detail.inner.length := by
  rw [shown_eq]
  cases detail.inner with
  | nil => rfl
  | cons first more =>
      rw [List.isEmpty_cons, if_neg Bool.false_ne_true, List.length_cons]
      omega

theorem shown_ne_nil (detail : Detail) : detail.shown ≠ [] := by
  intro hnil
  have hlength := detail.length_shown
  rw [hnil, List.length_nil] at hlength
  omega

end Detail

namespace ValidationError

theorem diagnostics_of_no_details {error : ValidationError} (h : error.details? = none)
    (filePath : FileName) (text : Text) (source : TokenSource) :
    error.diagnostics filePath text source = [⟨error.message, filePath, .wholeDocument text⟩] := by
  rw [diagnostics, diagnosticsBy, h]
  rfl

theorem diagnostics_of_details {error : ValidationError} {details : List Detail}
    (h : error.details? = some details) (filePath : FileName) (text : Text) (source : TokenSource) :
    error.diagnostics filePath text source = (details.flatMap Detail.shown).map fun detail =>
      ⟨detail.message, filePath, detail.path.located text source⟩ := by
  rw [diagnostics, diagnosticsBy, h]
  exact List.mapM_pure

theorem length_diagnostics {error : ValidationError} {details : List Detail}
    (h : error.details? = some details) (filePath : FileName) (text : Text) (source : TokenSource) :
    (error.diagnostics filePath text source).length =
      (details.map fun detail => max 1 detail.inner.length).sum := by
  rw [diagnostics_of_details h, List.length_map, List.length_flatMap]
  exact congrArg List.sum (List.map_congr_left fun detail _ => detail.length_shown)

/-- An error has diagnostics unless it has a list of details with nothing in it. -/
theorem diagnostics_eq_nil_iff (error : ValidationError) (filePath : FileName) (text : Text)
    (source : TokenSource) :
    error.diagnostics filePath text source = [] ↔ error.details? = some [] := by
  cases hdetails : error.details? with
  | none =>
      rw [diagnostics_of_no_details hdetails]
      simp
  | some details =>
      rw [diagnostics_of_details hdetails, List.map_eq_nil_iff, List.flatMap_eq_nil_iff]
      constructor
      · intro hnone
        cases details with
        | nil => rfl
        | cons first more => exact absurd (hnone first List.mem_cons_self) first.shown_ne_nil
      · intro hnil
        injection hnil with hnil
        rw [hnil]
        exact fun _ h => nomatch h

theorem liesIn_of_mem_diagnostics {text : Text} {source : TokenSource}
    (hsource : source.Spells text) {error : ValidationError} {filePath : FileName}
    {diagnostic : Diagnostic} (h : diagnostic ∈ error.diagnostics filePath text source) :
    diagnostic.range.LiesIn text := by
  cases hdetails : error.details? with
  | none =>
      rw [diagnostics_of_no_details hdetails, List.mem_singleton] at h
      rw [h]
      exact Range.wholeDocument_liesIn text
  | some details =>
      rw [diagnostics_of_details hdetails] at h
      obtain ⟨entry, _, rfl⟩ := List.mem_map.mp h
      exact entry.path.located_liesIn hsource

/-- Without details there is one diagnostic, about the whole document. With details there is one
for each of the details that are shown, in their order: a choice counts as often as it has
alternatives. Each is placed by its own path, about the whole document only if that is not
found or is all of the text, and lies within the document. -/
theorem diagnostics_spec {text : Text} {source : TokenSource} (hsource : source.Spells text)
    (error : ValidationError) (filePath : FileName) :
    let diagnostics := error.diagnostics filePath text source
    let whole := Range.wholeDocument text
    (error.details? = none → diagnostics = [⟨error.message, filePath, whole⟩]) ∧
    (∀ details, error.details? = some details →
      let shown := details.flatMap fun detail =>
        if detail.inner.isEmpty then [detail] else detail.inner
      diagnostics = (shown.map fun entry =>
        ⟨entry.message, filePath, (entry.path.resolve? source).getD whole⟩) ∧
      diagnostics.length = (details.map fun detail => max 1 detail.inner.length).sum ∧
      ∀ entry ∈ shown, (entry.path.resolve? source).getD whole = whole ↔
        ¬ (entry.path.keys ≠ [] ∧
            entry.path.keys.Sublist (source.placedNames.map PlacedName.name)) ∨
          entry.path.keys.getLast? = some text) ∧
    ∀ diagnostic ∈ diagnostics, diagnostic.range.LiesIn text := by
  intro diagnostics whole
  refine ⟨fun hnone => diagnostics_of_no_details hnone filePath text source, ?_, ?_⟩
  · intro details hdetails shown
    have hshown : details.flatMap Detail.shown = shown :=
      congrArg (List.flatMap · details) (funext Detail.shown_eq)
    have hmap := diagnostics_of_details hdetails filePath text source
    exact ⟨hshown ▸ hmap, length_diagnostics hdetails filePath text source,
      fun entry _ => entry.path.located_eq_wholeDocument_iff hsource⟩
  · exact fun diagnostic hmem => liesIn_of_mem_diagnostics hsource hmem

/-- A choice with two alternatives, one of them nowhere to be found, and a choice without. -/
theorem diagnostics_of_two_choices :
    let text : Text := "é: 1\nb: 2".toList
    let lines : List TokenLine := [[⟨[KeyScope.yaml.name], "é".toList⟩, ⟨[], ": 1".toList⟩],
      [⟨[KeyScope.yaml.name], "b".toList⟩, ⟨[], ": 2".toList⟩]]
    let source : TokenSource := ⟨2, fun n => lines[n]?⟩
    let first : Path := [.key "é".toList]
    let second : Path := first ++ [.index 0, .key "b".toList]
    let error : ValidationError := .invalid "rejected"
      [.ofChoice "either" first [.single "X" "one" second, .single "X" "other" (second ++ first)],
        .ofChoice "neither" first []]
    source.Spells text ∧
      error.diagnostics "a.yaml" text source = [⟨"one", "a.yaml", .onLine 1 0 1⟩,
        ⟨"other", "a.yaml", .wholeDocument text⟩, ⟨"neither", "a.yaml", .onLine 0 0 1⟩] ∧
      ∀ diagnostic ∈ error.diagnostics "a.yaml" text source, diagnostic.range.LiesIn text := by
  intro text lines source first second error
  have hsource : source.Spells text := TokenSource.spells_of_map_text (by decide) 2
  obtain ⟨_, hshown, hlies⟩ := diagnostics_spec hsource error "a.yaml"
  obtain ⟨hmap, _, _⟩ := hshown _ rfl
  exact ⟨hsource, hmap.trans (by decide), hlies⟩

end ValidationError

end ApiLint
