import Mathlib
import ApiLint.Proofs.Resolve.Order

/-!
# Taking each name as early as it can be

A search takes every name at the first place it meets, and never reconsiders. Nothing is lost by
that: a way to pick the names that takes the first one later can take it here instead, and the
rest of it still stands further on. So the place at which a search ends is the least one at which
any way to pick the names ends (`Resolve.isLeast_of_search`), which is the exchange argument of
greedy choices, made once for each name.

Names can be used up by dropping them, which is how a search is written, or by counting those
that were taken. A counter is also an index, and has to stay one of a name while there is anything
to compare. It does, since reading ends with the last name, and both ways to use up names then
answer alike (`Resolve.countLines?_eq`).
-/

namespace ApiLint

namespace Resolve

/-! ## Ways to pick names -/

/-- Places of a list, one after another, at which the names stand. -/
def Embeds (names : List Text) (listed : List PlacedName) (places : List Nat) : Prop :=
  places.Pairwise (· < ·) ∧
    places.map (fun place => listed[place]?.map PlacedName.name) = names.map some

/-- The names can be picked from the list so that the last one is the one at `place`. -/
def CanEnd (names : List Text) (listed : List PlacedName) (place : Nat) : Prop :=
  ∃ places, Embeds names listed places ∧ places.getLast? = some place

section

variable {name : Text} {names others : List Text} {first : PlacedName} {rest : List PlacedName}
  {places : List Nat}

theorem Embeds.ne_nil {listed : List PlacedName} {place : Nat}
    (h : Embeds names listed places) (hlast : places.getLast? = some place) : names ≠ [] := by
  rintro rfl
  rw [List.map_eq_nil_iff.mp h.2] at hlast
  cases hlast

/-- In a longer list the same names stand one place further. -/
theorem Embeds.later (h : Embeds names rest places) :
    Embeds names (first :: rest) (places.map (· + 1)) := by
  obtain ⟨hordered, hnames⟩ := h
  refine ⟨?_, ?_⟩
  · rw [List.pairwise_map]
    exact hordered.imp fun hlt => Nat.succ_lt_succ hlt
  · rw [List.map_map, ← hnames]
    exact List.map_congr_left fun place _ => by
      rw [Function.comp_apply, List.getElem?_cons_succ]

/-- Places that are not the first one are places of the rest. -/
theorem Embeds.earlier (h : Embeds names (first :: rest) places)
    (hpositive : ∀ place ∈ places, 0 < place) :
    ∃ lower, places = lower.map (· + 1) ∧ Embeds names rest lower := by
  have hplaces : places = (places.map (· - 1)).map (· + 1) := by
    rw [List.map_map]
    refine ((List.map_congr_left fun place hmem => ?_).trans (List.map_id places)).symm
    have := hpositive place hmem
    show place - 1 + 1 = place
    omega
  refine ⟨places.map (· - 1), hplaces, ?_⟩
  obtain ⟨hordered, hnames⟩ := h
  rw [hplaces] at hordered hnames
  refine ⟨?_, ?_⟩
  · rw [List.pairwise_map] at hordered
    exact hordered.imp fun hlt => Nat.lt_of_succ_lt_succ hlt
  · rw [List.map_map] at hnames
    rw [← hnames]
    exact List.map_congr_left fun place _ => by
      rw [Function.comp_apply, List.getElem?_cons_succ]

theorem Embeds.cons (hname : first.name = name) (h : Embeds others rest places) :
    Embeds (name :: others) (first :: rest) (0 :: places.map (· + 1)) := by
  have hlater : Embeds others (first :: rest) (places.map (· + 1)) := h.later
  obtain ⟨hordered, hnames⟩ := hlater
  refine ⟨List.pairwise_cons.mpr ⟨?_, hordered⟩, ?_⟩
  · intro place hmem
    obtain ⟨earlier, _, rfl⟩ := List.mem_map.mp hmem
    exact Nat.succ_pos earlier
  · rw [List.map_cons, hnames, List.getElem?_cons_zero, Option.map_some, hname]
    rfl

/-- Where the first name is picked, and the others after it. -/
theorem Embeds.exists_cons {listed : List PlacedName} (h : Embeds (name :: others) listed places) :
    ∃ place later, places = place :: later ∧ listed[place]?.map PlacedName.name = some name ∧
      (∀ next ∈ later, place < next) ∧ Embeds others listed later := by
  obtain ⟨hordered, hnames⟩ := h
  cases places with
  | nil => cases hnames
  | cons place later =>
      rw [List.map_cons, List.map_cons] at hnames
      injection hnames with hplace hlater
      obtain ⟨hnext, hordered⟩ := List.pairwise_cons.mp hordered
      exact ⟨place, later, rfl, hplace, hnext, hordered, hlater⟩

theorem getLast?_map_succ {last : Nat} :
    (places.map (· + 1)).getLast? = some (last + 1) ↔ places.getLast? = some last := by
  rw [List.getLast?_map]
  cases places.getLast? with
  | none => simp
  | some other => simp

/-- A name that does not stand at the front is picked further on, as are all names after it. -/
theorem canEnd_of_ne (hname : first.name ≠ name) {last : Nat} :
    CanEnd (name :: others) (first :: rest) last ↔
      ∃ earlier, last = earlier + 1 ∧ CanEnd (name :: others) rest earlier := by
  constructor
  · rintro ⟨places, hplaces, hlast⟩
    obtain ⟨place, later, rfl, hplace, hnext, _⟩ := hplaces.exists_cons
    have hpositive : 0 < place := by
      rcases Nat.eq_zero_or_pos place with rfl | hpos
      · rw [List.getElem?_cons_zero, Option.map_some] at hplace
        injection hplace with hplace
        exact absurd hplace hname
      · exact hpos
    obtain ⟨lower, hlower, hembeds⟩ := hplaces.earlier fun next hmem => by
      rcases List.mem_cons.mp hmem with rfl | hlater
      · exact hpositive
      · exact Nat.lt_trans hpositive (hnext next hlater)
    have hmem : last ∈ lower.map (· + 1) := hlower ▸ List.mem_of_getLast? hlast
    obtain ⟨earlier, _, rfl⟩ := List.mem_map.mp hmem
    rw [hlower] at hlast
    exact ⟨earlier, rfl, lower, hembeds, getLast?_map_succ.mp hlast⟩
  · rintro ⟨earlier, rfl, places, hplaces, hlast⟩
    exact ⟨_, hplaces.later, getLast?_map_succ.mpr hlast⟩

/-- A name that stands at the front may as well be picked there. -/
theorem canEnd_of_eq (hname : first.name = name) (hothers : others ≠ []) {last : Nat} :
    CanEnd (name :: others) (first :: rest) last ↔
      ∃ earlier, last = earlier + 1 ∧ CanEnd others rest earlier := by
  constructor
  · rintro ⟨places, hplaces, hlast⟩
    obtain ⟨place, later, rfl, _, hnext, hembeds⟩ := hplaces.exists_cons
    obtain ⟨lower, rfl, hlower⟩ := hembeds.earlier fun next hmem =>
      Nat.lt_of_le_of_lt (Nat.zero_le place) (hnext next hmem)
    cases lower with
    | nil => exact absurd (List.map_eq_nil_iff.mp hlower.2.symm) hothers
    | cons next more =>
        rw [List.map_cons, List.getLast?_cons_cons] at hlast
        have hlater : ((next :: more).map (· + 1)).getLast? = some last := hlast
        obtain ⟨earlier, _, rfl⟩ := List.mem_map.mp (List.mem_of_getLast? hlater)
        exact ⟨earlier, rfl, next :: more, hlower, getLast?_map_succ.mp hlater⟩
  · rintro ⟨earlier, rfl, places, hplaces, hlast⟩
    refine ⟨_, hplaces.cons hname, ?_⟩
    cases places with
    | nil => cases hlast
    | cons next more =>
        rw [List.map_cons, List.getLast?_cons_cons]
        exact getLast?_map_succ.mpr hlast

theorem canEnd_singleton_zero (hname : first.name = name) : CanEnd [name] (first :: rest) 0 :=
  ⟨[0], ⟨List.pairwise_singleton _ 0, by simp [hname]⟩, rfl⟩

end

/-- What a search answers is the range of the first name at which a way to pick the names can
end. -/
theorem isLeast_of_search {listed : List PlacedName} {range : Range} :
    ∀ {names}, search names listed = some range →
      ∃ last placed, IsLeast {place | CanEnd names listed place} last ∧
        listed[last]? = some placed ∧ placed.range = range := by
  induction listed with
  | nil =>
      intro names h
      cases names with
      | nil => cases h
      | cons name others => cases h
  | cons first rest ih =>
      intro names h
      cases names with
      | nil => cases h
      | cons name others =>
          rw [search] at h
          -- Either way one name less, or one place less, is left for the induction.
          have hstep : ∀ wanted, search wanted rest = some range →
              (∀ last, CanEnd (name :: others) (first :: rest) last ↔
                ∃ earlier, last = earlier + 1 ∧ CanEnd wanted rest earlier) →
              ∃ last placed, IsLeast {place | CanEnd (name :: others) (first :: rest) place} last ∧
                (first :: rest)[last]? = some placed ∧ placed.range = range := by
            intro wanted hwanted hcan
            obtain ⟨last, placed, ⟨hends, hleast⟩, hplaced, hrange⟩ := ih hwanted
            refine ⟨last + 1, placed, ⟨(hcan _).mpr ⟨last, rfl, hends⟩, ?_⟩, hplaced, hrange⟩
            intro other hother
            obtain ⟨earlier, rfl, hearlier⟩ := (hcan other).mp hother
            exact Nat.succ_le_succ (hleast hearlier)
          by_cases hname : first.name = name
          · rw [if_pos hname] at h
            cases others with
            | nil =>
                injection h with h
                exact ⟨0, first, ⟨canEnd_singleton_zero hname, fun _ _ => Nat.zero_le _⟩, rfl, h⟩
            | cons next more =>
                exact hstep _ h fun last => canEnd_of_eq hname (List.cons_ne_nil next more)
          · rw [if_neg hname] at h
            exact hstep _ h fun last => canEnd_of_ne hname

theorem sublist_of_canEnd {listed : List PlacedName} :
    ∀ {names last}, CanEnd names listed last → names.Sublist (listed.map PlacedName.name) := by
  induction listed with
  | nil =>
      rintro names last ⟨places, hplaces, _⟩
      cases names with
      | nil => exact List.Sublist.refl _
      | cons name others =>
          obtain ⟨place, _, _, hplace, _⟩ := hplaces.exists_cons
          cases hplace
  | cons first rest ih =>
      intro names last h
      cases names with
      | nil => exact List.nil_sublist _
      | cons name others =>
          rw [List.map_cons]
          by_cases hname : first.name = name
          · rw [hname, List.cons_sublist_cons]
            by_cases hothers : others = []
            · rw [hothers]
              exact List.nil_sublist _
            · obtain ⟨earlier, _, hearlier⟩ := (canEnd_of_eq hname hothers).mp h
              exact ih hearlier
          · obtain ⟨earlier, _, hearlier⟩ := (canEnd_of_ne hname).mp h
            exact (ih hearlier).cons _

/-- The search answers with the first place at which a way to pick the names can end, and only
if there is one. -/
theorem search_eq_some_iff {names : List Text} {listed : List PlacedName} {range : Range} :
    search names listed = some range ↔
      ∃ last placed, IsLeast {place | CanEnd names listed place} last ∧
        listed[last]? = some placed ∧ placed.range = range := by
  refine ⟨isLeast_of_search, ?_⟩
  rintro ⟨last, placed, hleast, hplaced, rfl⟩
  obtain ⟨places, hplaces, hlast⟩ := hleast.1
  have hsome := (isSome_search_iff names listed).mpr
    ⟨hplaces.ne_nil hlast, sublist_of_canEnd ⟨places, hplaces, hlast⟩⟩
  obtain ⟨range, hrange⟩ := Option.isSome_iff_exists.mp hsome
  obtain ⟨other, found, hother, hfound, rfl⟩ := isLeast_of_search hrange
  cases hleast.unique hother
  cases hplaced.symm.trans hfound
  exact hrange

/-! ## Names that are counted -/

/-- What one stretch of tokens made of counting: the last name was taken at these columns, or so
many names are taken. -/
inductive Counted where
  | found (startColumn stopColumn : Nat)
  | taken (count : Nat)
  deriving DecidableEq, Repr

/-- Takes names on one line, of which `taken` have been. There is no answer if a key is to be
compared with a name past the last one. -/
def countLine? (names : List Text) (taken column : Nat) : TokenLine → Option Counted
  | [] => some (.taken taken)
  | token :: rest =>
    let next := column + token.width
    if token.isKey then
      match names[taken]? with
      | none => none
      | some name =>
        if token.value = name then
          if taken + 1 = names.length then some (.found column next)
          else countLine? names (taken + 1) next rest
        else countLine? names taken next rest
    else countLine? names taken next rest

/-- Takes names on `count` lines from line `number` on. -/
def countLines? (source : TokenSource) (names : List Text) (taken number : Nat) :
    Nat → Option (Option Range)
  | 0 => some none
  | count + 1 =>
    match source.line? number with
    | none => some none
    | some line =>
      match countLine? names taken 0 line with
      | none => none
      | some (.found startColumn stopColumn) => some (some (.onLine number startColumn stopColumn))
      | some (.taken taken) => countLines? source names taken (number + 1) count

/-- Counting keeps to the names there are, and takes what dropping takes. -/
theorem countLine?_cases {names : List Text} {taken : Nat} (h : taken < names.length)
    (line : TokenLine) :
    ∀ column, (∃ start stop, countLine? names taken column line = some (.found start stop) ∧
        scanLine (names.drop taken) column line = .found start stop) ∨
      ∃ count, count < names.length ∧ countLine? names taken column line = some (.taken count) ∧
        scanLine (names.drop taken) column line = .wanting (names.drop count) := by
  induction line generalizing taken with
  | nil => exact fun column => Or.inr ⟨taken, h, rfl, by rw [scanLine]⟩
  | cons token rest ih =>
      intro column
      have hdrop : names.drop taken = names[taken] :: names.drop (taken + 1) :=
        List.drop_eq_getElem_cons h
      rw [countLine?, List.getElem?_eq_getElem h, hdrop, scanLine]
      dsimp only
      by_cases hkey : token.isKey = true
      · rw [if_pos hkey]
        by_cases hname : token.value = names[taken]
        · have htaken : token.isKey = true ∧ token.value = names[taken] := ⟨hkey, hname⟩
          rw [if_pos hname, if_pos htaken]
          by_cases hlast : taken + 1 = names.length
          · rw [if_pos hlast, hlast, List.drop_length]
            exact Or.inl ⟨column, column + token.width, rfl, rfl⟩
          · have hnext : taken + 1 < names.length := by omega
            have hsome : ¬ (names.drop (taken + 1)).isEmpty = true := by
              rw [List.isEmpty_iff, List.drop_eq_nil_iff]
              omega
            rw [if_neg hlast, if_neg hsome]
            exact ih hnext _
        · rw [if_neg hname, if_neg fun htaken => hname htaken.2, ← hdrop]
          exact ih h _
      · rw [if_neg hkey, if_neg fun htaken => hkey htaken.1, ← hdrop]
        exact ih h _

theorem countLines?_eq (source : TokenSource) {names : List Text} (count : Nat) :
    ∀ {taken number}, taken < names.length →
      countLines? source names taken number count =
        some (scanLines (m := Id) (fun n => source.line? n) (names.drop taken) number count) := by
  induction count with
  | zero => exact fun _ => rfl
  | succ count ih =>
      intro taken number h
      rw [countLines?, scanLines]
      cases hline : source.line? number with
      | none => rfl
      | some line =>
          rcases countLine?_cases h line 0 with
            ⟨start, stop, hcount, hscan⟩ | ⟨more, hmore, hcount, hscan⟩
          · simp only [hcount, bind, hscan]
            rfl
          · simp only [hcount, bind, hscan]
            exact ih hmore

end Resolve

/-! ## What is listed -/

theorem TokenLine.mem_placedNames_iff {number column : Nat} {line : TokenLine}
    {placed : PlacedName} :
    placed ∈ line.placedNames number column ↔ ∃ before token after,
      line = before ++ token :: after ∧ token.isKey = true ∧
        placed = ⟨.onLine number (column + (TokenLine.text before).length)
          (column + (TokenLine.text before).length + token.value.length), token.value⟩ := by
  refine ⟨TokenLine.exists_token, ?_⟩
  rintro ⟨before, token, after, rfl, hkey, rfl⟩
  rw [placedNames_append, placedNames, if_pos hkey]
  exact List.mem_append_right _ List.mem_cons_self

namespace TokenSource

theorem mem_placedNamesFrom_iff {source : TokenSource} {placed : PlacedName} (count : Nat) :
    ∀ number, placed ∈ source.placedNamesFrom number count ↔ ∃ n line, n < number + count ∧
      number ≤ n ∧ (∀ m, number ≤ m → m ≤ n → (source.line? m).isSome = true) ∧
        source.line? n = some line ∧ placed ∈ line.placedNames n 0 := by
  induction count with
  | zero =>
      intro number
      constructor
      · intro h
        cases h
      · rintro ⟨n, _, hlt, hle, _⟩
        omega
  | succ count ih =>
      intro number
      rw [placedNamesFrom]
      cases hline : source.line? number with
      | none =>
          constructor
          · intro h
            cases h
          · rintro ⟨n, line, _, hle, hread, _⟩
            have hsome := hread number (Nat.le_refl number) hle
            rw [hline] at hsome
            cases hsome
      | some line =>
          dsimp only
          rw [List.mem_append, ih]
          constructor
          · rintro (hmem | ⟨n, other, hlt, hle, hread, hother, hmem⟩)
            · refine ⟨number, line, by omega, Nat.le_refl number, fun m hm hn => ?_, hline, hmem⟩
              rw [Nat.le_antisymm hn hm, hline]
              rfl
            · refine ⟨n, other, by omega, by omega, fun m hm hn => ?_, hother, hmem⟩
              rcases Nat.eq_or_lt_of_le hm with rfl | hm
              · rw [hline]
                rfl
              · exact hread m hm hn
          · rintro ⟨n, other, hlt, hle, hread, hother, hmem⟩
            rcases Nat.eq_or_lt_of_le hle with rfl | hle
            · rw [hline] at hother
              injection hother with hother
              exact Or.inl (hother ▸ hmem)
            · exact Or.inr ⟨n, other, by omega, hle, fun m hm => hread m (by omega), hother, hmem⟩

/-- Listed is each key of a line that is read, where the lengths of the tokens before it say. -/
theorem mem_placedNames_iff {source : TokenSource} {placed : PlacedName} :
    placed ∈ source.placedNames ↔ ∃ n before token after, n ≤ source.lineCount ∧
      (∀ m ≤ n, (source.line? m).isSome = true) ∧
        source.line? n = some (before ++ token :: after) ∧ token.isKey = true ∧
          placed = ⟨.onLine n (before.map Token.width).sum
            ((before.map Token.width).sum + token.width), token.value⟩ := by
  have hlength : ∀ before : TokenLine,
      (TokenLine.text before).length = (before.map Token.width).sum := by
    intro before
    rw [TokenLine.text, List.length_flatMap]
    rfl
  rw [placedNames, mem_placedNamesFrom_iff]
  constructor
  · rintro ⟨n, line, hlt, _, hread, hline, hmem⟩
    obtain ⟨before, token, after, rfl, hkey, rfl⟩ := TokenLine.mem_placedNames_iff.mp hmem
    refine ⟨n, before, token, after, by omega, fun m => hread m (Nat.zero_le m), hline, hkey, ?_⟩
    rw [Nat.zero_add, hlength]
    rfl
  · rintro ⟨n, before, token, after, hle, hread, hline, hkey, rfl⟩
    refine ⟨n, _, by omega, Nat.zero_le n, fun m _ => hread m, hline, ?_⟩
    refine TokenLine.mem_placedNames_iff.mpr ⟨before, token, after, rfl, hkey, ?_⟩
    rw [Nat.zero_add, hlength]
    rfl

end TokenSource

namespace Path

/-- Looking for a path with a counter of the names taken. -/
def countedResolve? (path : Path) (source : TokenSource) : Option (Option Range) :=
  match path.keys with
  | [] => some none
  | names => Resolve.countLines? source names 0 0 (source.lineCount + 1)

theorem countedResolve?_eq (path : Path) (source : TokenSource) :
    path.countedResolve? source = some (path.resolve? source) := by
  rw [countedResolve?, resolve?, resolveBy]
  cases path.keys with
  | nil => rfl
  | cons name others => exact Resolve.countLines?_eq source _ (Nat.succ_pos others.length)

/-- The keys that a search gets to see are those of the lines from the first to the reported count,
up to one that is missing, in reading order. A path is found exactly if it has names and they stand
among those keys in order, and then at the first key at which any way to pick them can end; else
it is not found. Counting the names taken gives the same answer, with a counter that never leaves
the names. -/
theorem resolve?_greedy (path : Path) (source : TokenSource) :
    let listed := source.placedNames
    (listed.Pairwise fun p q => p.range.stop ≤ q.range.start) ∧
    (∀ placed, placed ∈ listed ↔ ∃ n before token after, n ≤ source.lineCount ∧
      (∀ m ≤ n, (source.line? m).isSome = true) ∧
        source.line? n = some (before ++ token :: after) ∧ token.isKey = true ∧
          placed = ⟨.onLine n (before.map Token.width).sum
            ((before.map Token.width).sum + token.width), token.value⟩) ∧
    ((path.resolve? source).isSome = true ↔
      path.keys ≠ [] ∧ path.keys.Sublist (listed.map PlacedName.name)) ∧
    (∀ range, path.resolve? source = some range ↔
      ∃ last placed, IsLeast {place | Resolve.CanEnd path.keys listed place} last ∧
        listed[last]? = some placed ∧ placed.range = range) ∧
    path.countedResolve? source = some (path.resolve? source) := by
  intro listed
  refine ⟨source.placedNames_pairwise, fun placed => TokenSource.mem_placedNames_iff,
    isSome_resolve?_iff path source, fun range => ?_, countedResolve?_eq path source⟩
  rw [resolve?_eq_search]
  exact Resolve.search_eq_some_iff

end Path

end ApiLint
