import ApiLint.Proofs.Resolve
import ApiLint.Proofs.Validator

/-!
# Paths inside one another

A longer path is looked for by the same search as the path it goes on from: until the names of
the shorter one are used up, both take the same names from the list. What the longer one takes
after that comes later in the list (`Resolve.exists_search_of_append`), and the names of a source
are listed in the order in which they stand (`TokenSource.placedNames_pairwise`), whatever its
tokens are. So an ancestor of what is found is found as well, and no later.

The alternatives of a choice have paths that go on from the path of the choice, which is how the
order of paths becomes one of details.
-/

namespace ApiLint

/-- What an alternative is about goes on from what its choice is about. -/
theorem Detail.Sound.exists_path_append {detail entry : Detail} (h : detail.Sound)
    (hentry : entry ∈ detail.inner) : ∃ more, entry.path = detail.path ++ more := by
  cases h with
  | single code message path => cases hentry
  | oneOf message path nonempty inside =>
      obtain ⟨_, _, more, rfl⟩ := inside entry hentry
      exact ⟨more, rfl⟩

namespace TokenLine

/-- A name is in one line, from the column of its token on. -/
theorem bounds_of_mem_placedNames {number column : Nat} {line : TokenLine} {placed : PlacedName}
    (h : placed ∈ line.placedNames number column) :
    placed.range.start.line = number ∧ placed.range.stop.line = number ∧
      column ≤ placed.range.start.column ∧
      placed.range.start.column ≤ placed.range.stop.column := by
  obtain ⟨before, token, after, _, _, rfl⟩ := exists_token h
  exact ⟨rfl, rfl, Nat.le_add_right _ _, Nat.le_add_right _ _⟩

/-- On a line, a name stops before the next one starts. -/
theorem placedNames_pairwise (number : Nat) (line : TokenLine) :
    ∀ column, (line.placedNames number column).Pairwise fun p q =>
      p.range.stop ≤ q.range.start := by
  induction line with
  | nil => exact fun _ => List.Pairwise.nil
  | cons token rest ih =>
      intro column
      rw [placedNames]
      split
      · refine List.pairwise_cons.mpr ⟨fun later hlater => ?_, ih _⟩
        obtain ⟨hline, _, hcolumn, _⟩ := bounds_of_mem_placedNames hlater
        exact Position.le_iff.mpr (Or.inr ⟨hline.symm, hcolumn⟩)
      · exact ih _

end TokenLine

namespace TokenSource

theorem le_line_of_mem_placedNamesFrom {source : TokenSource} {placed : PlacedName}
    (count : Nat) :
    ∀ number, placed ∈ source.placedNamesFrom number count → number ≤ placed.range.start.line := by
  induction count with
  | zero => exact fun _ h => nomatch h
  | succ count ih =>
      intro number h
      rw [placedNamesFrom] at h
      split at h
      · cases h
      · rcases List.mem_append.mp h with hmem | hmem
        · exact Nat.le_of_eq (TokenLine.bounds_of_mem_placedNames hmem).1.symm
        · exact Nat.le_of_succ_le (ih (number + 1) hmem)

theorem placedNamesFrom_pairwise (source : TokenSource) (count : Nat) :
    ∀ number, (source.placedNamesFrom number count).Pairwise fun p q =>
      p.range.stop ≤ q.range.start := by
  induction count with
  | zero => exact fun _ => List.Pairwise.nil
  | succ count ih =>
      intro number
      rw [placedNamesFrom]
      split
      · exact List.Pairwise.nil
      · next line hline =>
          refine List.pairwise_append.mpr ⟨line.placedNames_pairwise number 0, ih _, ?_⟩
          intro first hfirst later hlater
          obtain ⟨_, hstop, _⟩ := TokenLine.bounds_of_mem_placedNames hfirst
          have hstart := le_line_of_mem_placedNamesFrom count (number + 1) hlater
          exact Position.le_iff.mpr (Or.inl (by omega))

/-- Names are listed in the order in which they stand, and do not overlap. -/
theorem placedNames_pairwise (source : TokenSource) :
    source.placedNames.Pairwise fun p q => p.range.stop ≤ q.range.start :=
  source.placedNamesFrom_pairwise _ 0

end TokenSource

namespace Resolve

/-- A search that goes on from some names has found those, and before what it goes on to. -/
theorem exists_search_of_append {listed : List PlacedName}
    (hordered : listed.Pairwise fun p q => p.range.stop ≤ q.range.start) {more : List Text}
    (hmore : more ≠ []) {range : Range} :
    ∀ {names}, names ≠ [] → search (names ++ more) listed = some range →
      ∃ own, search names listed = some own ∧ own.stop ≤ range.start := by
  induction listed with
  | nil =>
      intro names hnames h
      cases names with
      | nil => exact absurd rfl hnames
      | cons name others => cases h
  | cons placed rest ih =>
      intro names hnames h
      obtain ⟨hfirst, hrest⟩ := List.pairwise_cons.mp hordered
      cases names with
      | nil => exact absurd rfl hnames
      | cons name others =>
          rw [List.cons_append, search] at h
          rw [search]
          by_cases hname : placed.name = name
          · rw [if_pos hname] at h ⊢
            cases others with
            | nil =>
                -- The names are used up here, and `more` is looked for in what is left.
                rw [List.nil_append, if_neg (by simpa using hmore)] at h
                obtain ⟨last, hlast, hrange, _⟩ := mem_of_search_eq_some h
                exact ⟨placed.range, rfl, hrange ▸ hfirst last hlast⟩
            | cons next others => exact ih hrest (List.cons_ne_nil _ _) h
          · rw [if_neg hname] at h ⊢
            exact ih hrest hnames h

end Resolve

namespace Path

theorem start_le_stop_of_resolve? {source : TokenSource} {path : Path} {range : Range}
    (h : path.resolve? source = some range) : range.start ≤ range.stop := by
  rw [resolve?_eq_search] at h
  obtain ⟨placed, hmem, rfl, _⟩ := Resolve.mem_of_search_eq_some h
  obtain ⟨n, line, _, hplaced⟩ := TokenSource.exists_line hmem
  obtain ⟨hstart, hstop, _, hcolumn⟩ := TokenLine.bounds_of_mem_placedNames hplaced
  exact Position.le_iff.mpr (Or.inr ⟨hstart.trans hstop.symm, hcolumn⟩)

theorem keys_append (path more : Path) : (path ++ more).keys = path.keys ++ more.keys :=
  List.filterMap_append

/-- A path with names is found if one is that goes on from it: at the same place if the other
has no further names, and before it otherwise. -/
theorem exists_resolve?_of_append {source : TokenSource} {path more : Path} {range : Range}
    (hkeys : path.keys ≠ []) (h : (path ++ more).resolve? source = some range) :
    ∃ own, path.resolve? source = some own ∧ (more.keys = [] → own = range) ∧
      (more.keys ≠ [] → own.stop ≤ range.start) := by
  rw [resolve?_eq_search, keys_append] at h
  rw [resolve?_eq_search]
  by_cases hmore : more.keys = []
  · rw [hmore, List.append_nil] at h
    exact ⟨range, h, fun _ => rfl, fun hne => absurd hmore hne⟩
  · obtain ⟨own, hown, hle⟩ :=
      Resolve.exists_search_of_append source.placedNames_pairwise hmore hkeys h
    exact ⟨own, hown, fun hnil => absurd hnil hmore, fun _ => hle⟩

/-- What goes on from a path with names is found only if the path is, at the same place or after
it. So the alternatives of a choice that a verdict holds are never placed before the choice. -/
theorem resolve?_append_spec (source : TokenSource) :
    (∀ (path more : Path) range, (path ++ more).resolve? source = some range → path.keys = [] ∨
      ∃ own, path.resolve? source = some own ∧ (more.keys = [] → own = range) ∧
        (more.keys ≠ [] → own.stop ≤ range.start)) ∧
    (∀ path more : Path, path.keys ≠ [] → path.resolve? source = none →
      (path ++ more).resolve? source = none) ∧
    ∀ check name text options message details,
      Schema.verdictOn check name text options = .error (.invalid message details) →
      ∀ detail ∈ details, detail.path.keys ≠ [] → ∀ entry ∈ detail.inner, ∀ range,
        entry.path.resolve? source = some range →
        ∃ own, detail.path.resolve? source = some own ∧ own.start ≤ range.start ∧
          (own = range ∨ own.stop ≤ range.start) := by
  refine ⟨?_, ?_, ?_⟩
  · intro path more range h
    by_cases hkeys : path.keys = []
    · exact Or.inl hkeys
    · exact Or.inr (exists_resolve?_of_append hkeys h)
  · intro path more hkeys hnone
    cases h : (path ++ more).resolve? source with
    | none => rfl
    | some range =>
        obtain ⟨own, hown, _⟩ := exists_resolve?_of_append hkeys h
        rw [hnone] at hown
        cases hown
  · intro check name text options message details hverdict detail hdetail hkeys entry hentry range h
    have hsound := (Schema.sound_of_verdictOn_eq_invalid hverdict).2 detail hdetail
    obtain ⟨more, hmore⟩ := hsound.exists_path_append hentry
    rw [hmore] at h
    obtain ⟨own, hown, hsame, hafter⟩ := exists_resolve?_of_append hkeys h
    refine ⟨own, hown, ?_⟩
    by_cases hnames : more.keys = []
    · rw [hsame hnames]
      exact ⟨Or.inl rfl, Or.inl rfl⟩
    · exact ⟨Position.le_trans (start_le_stop_of_resolve? hown) (hafter hnames),
        Or.inr (hafter hnames)⟩

/-- Two keys of one name, and a name that stands before the first and below the second. -/
theorem resolve?_append_repeated_key :
    let key : String → Token := fun name => ⟨[KeyScope.yaml.name], name.toList⟩
    let plain : String → Token := fun value => ⟨[], value.toList⟩
    let source := TokenSource.ofLines
      [[key "b", plain ": \x7b", key "a", plain ": 1\x7d"],
        [key "a", plain ": \x7b", key "b", plain ": 2\x7d"]]
    let path : Path := [.key "a".toList]
    let missing : Path := [.key "c".toList]
    let more : Path := [.index 0, .key "b".toList]
    let check : Json → Schema.Outcome := fun value =>
      ⟨[⟨.oneOfNone, value, ["a".toList], []⟩],
        [⟨["0".toList], ["a".toList, "0".toList, "b".toList], "no"⟩]⟩
    let choice : Detail := .ofChoice Schema.Finding.choiceText path
      [.single Schema.OutputUnit.code "no" (path ++ more)]
    let range := Range.onLine 1 4 5
    (path ++ more).resolve? source = some range ∧
      (∃ own, path.resolve? source = some own ∧ own.stop ≤ range.start) ∧
      (missing ++ more).resolve? source = none ∧
      (∃ message, Schema.verdictOn check "a.json".toList "[]".toList .structural =
        .error (.invalid message [choice])) ∧
      ∃ own, choice.path.resolve? source = some own ∧ own.start ≤ range.start := by
  intro key plain source path missing more check choice range
  obtain ⟨hfound, hmissing, hplaced⟩ := resolve?_append_spec source
  have hrange : (path ++ more).resolve? source = some range := by decide
  have hread : readDocument "a.json".toList "[]".toList = .ok (.array []) := by cbv
  have hverdict := Schema.verdictOn_of_ok hread check .structural
  have hchoice : (check (.array [])).verdict = .error (.invalid _ [choice]) := rfl
  have hnone := hmissing missing more (by decide) (by decide)
  refine ⟨hrange, ?_, hnone, ⟨_, hverdict.trans hchoice⟩, ?_⟩
  · rcases hfound path more range hrange with hkeys | ⟨own, hown, _, hafter⟩
    · exact absurd hkeys (by decide)
    · exact ⟨own, hown, hafter (by decide)⟩
  · obtain ⟨own, hown, hle, _⟩ := hplaced check _ _ _ _ _ (hverdict.trans hchoice) choice
      (List.mem_singleton_self _) (by decide) _ (List.mem_singleton_self _) range hrange
    exact ⟨own, hown, hle⟩

end Path

end ApiLint
