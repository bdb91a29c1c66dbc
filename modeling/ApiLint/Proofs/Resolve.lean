import ApiLint.Resolve
import ApiLint.Proofs.Range

/-!
# What the search for a path finds

The names of all keys of a source, in reading order and each with its range, are one
list, and looking for a path is `search` in that list: lines, columns and the early
end are then out of the picture (`Path.resolve?_eq_search`). Two facts carry the rest.

* Whatever `search` answers is the range of a listed name, the last one wanted
  (`mem_of_search_eq_some`), and a listed name is a token that the source has
  (`TokenSource.Spells.exists_piece`). If the source spells a text, the range therefore
  covers just that name (`Path.resolved_range_spells_last_key`).

* If the wanted names can be picked from the list in some way, `search` answers, and
  with nothing later than where that way ends (`search_of_sublist`).
-/

namespace ApiLint

/-- The name of a key, where it stands in a source. -/
structure PlacedName where
  range : Range
  name : Text
  deriving DecidableEq, Repr

/-- The names of the keys on a line whose first token stands at `column`. -/
def TokenLine.placedNames (number column : Nat) : TokenLine → List PlacedName
  | [] => []
  | token :: rest =>
    let next := column + token.width
    if token.isKey then ⟨.onLine number column next, token.value⟩ :: placedNames number next rest
    else placedNames number next rest

namespace TokenSource

/-- The names of the keys on `count` lines from line `number` on, up to the first line that
the source does not have. -/
def placedNamesFrom (source : TokenSource) (number : Nat) : Nat → List PlacedName
  | 0 => []
  | count + 1 =>
    match source.line? number with
    | none => []
    | some line => line.placedNames number 0 ++ source.placedNamesFrom (number + 1) count

/-- The names of the keys that a search gets to see. -/
def placedNames (source : TokenSource) : List PlacedName :=
  source.placedNamesFrom 0 (source.lineCount + 1)

/-- The source has the lines of a text, cut into tokens in any way, and no others. What it
reports as their number does not matter. -/
def Spells (source : TokenSource) (text : Text) : Prop :=
  (∀ n line, text.lines[n]? = some line →
    ∃ tokens, source.line? n = some tokens ∧ TokenLine.text tokens = line) ∧
  ∀ n, text.lines.length ≤ n → source.line? n = none

theorem Spells.line_eq {source : TokenSource} {text : Text} (h : source.Spells text) {n : Nat}
    {tokens : TokenLine} (hn : source.line? n = some tokens) :
    text.lines[n]? = some (TokenLine.text tokens) := by
  rcases Nat.lt_or_ge n text.lines.length with hlt | hge
  · obtain ⟨found, hfound, htext⟩ := h.1 n _ (List.getElem?_eq_getElem hlt)
    rw [hn] at hfound
    injection hfound with hfound
    rw [hfound, htext]
    exact List.getElem?_eq_getElem hlt
  · rw [h.2 n hge] at hn
    cases hn

/-- Lines cut into tokens spell the text they are the lines of. -/
theorem spells_of_map_text {lines : List TokenLine} {text : Text}
    (h : lines.map TokenLine.text = text.lines) (lineCount : Nat) :
    Spells ⟨lineCount, fun n => lines[n]?⟩ text := by
  refine ⟨?_, ?_⟩
  · intro n line hline
    rw [← h, List.getElem?_map] at hline
    exact Option.map_eq_some_iff.mp hline
  · intro n hn
    rw [← h, List.length_map] at hn
    exact List.getElem?_eq_none hn

end TokenSource

namespace TokenLine

theorem text_append (before after : TokenLine) :
    TokenLine.text (before ++ after) = TokenLine.text before ++ TokenLine.text after :=
  List.flatMap_append

theorem placedNames_append (number column : Nat) (before after : TokenLine) :
    TokenLine.placedNames number column (before ++ after) =
      TokenLine.placedNames number column before ++
        TokenLine.placedNames number (column + (TokenLine.text before).length) after := by
  induction before generalizing column with
  | nil => rfl
  | cons token rest ih =>
      have hcolumn : column + (TokenLine.text (token :: rest)).length =
          column + token.width + (TokenLine.text rest).length := by
        rw [TokenLine.text, List.flatMap_cons, List.length_append, ← Nat.add_assoc]
        rfl
      rw [List.cons_append, placedNames, placedNames, hcolumn, ih]
      split
      · rfl
      · rfl

/-- A listed name is that of a key token, whose columns count what precedes it. -/
theorem exists_token {number column : Nat} {line : TokenLine} {placed : PlacedName}
    (h : placed ∈ line.placedNames number column) :
    ∃ before token after, line = before ++ token :: after ∧ token.isKey = true ∧
      placed = ⟨.onLine number (column + (TokenLine.text before).length)
        (column + (TokenLine.text before).length + token.value.length), token.value⟩ := by
  induction line generalizing column with
  | nil => cases h
  | cons token rest ih =>
      have hrest : placed ∈ placedNames number (column + token.width) rest →
          ∃ before key after, token :: rest = before ++ key :: after ∧ key.isKey = true ∧
            placed = ⟨.onLine number (column + (TokenLine.text before).length)
              (column + (TokenLine.text before).length + key.value.length), key.value⟩ := by
        intro hmem
        obtain ⟨before, key, after, hline, hkey, hplaced⟩ := ih hmem
        refine ⟨token :: before, key, after, by rw [hline]; rfl, hkey, ?_⟩
        have hlen : (TokenLine.text (token :: before)).length =
            token.width + (TokenLine.text before).length := by
          rw [TokenLine.text, List.flatMap_cons, List.length_append]
          rfl
        rw [hplaced, hlen, ← Nat.add_assoc]
      rw [placedNames] at h
      split at h
      · next hkey =>
          rcases List.mem_cons.mp h with heq | hmem
          · exact ⟨[], token, rest, rfl, hkey, heq⟩
          · exact hrest hmem
      · exact hrest h

end TokenLine

namespace TokenSource

theorem exists_line {source : TokenSource} {number count : Nat} {placed : PlacedName}
    (h : placed ∈ source.placedNamesFrom number count) :
    ∃ n line, source.line? n = some line ∧ placed ∈ line.placedNames n 0 := by
  induction count generalizing number with
  | zero => cases h
  | succ count ih =>
      rw [placedNamesFrom] at h
      split at h
      · cases h
      · next line hline =>
          rcases List.mem_append.mp h with hmem | hmem
          · exact ⟨number, line, hline, hmem⟩
          · exact ih hmem

/-- In a source that spells a text, a listed name stands in the text under its range. -/
theorem Spells.exists_piece {source : TokenSource} {text : Text} (h : source.Spells text)
    {placed : PlacedName} (hmem : placed ∈ source.placedNames) :
    ∃ n before rest, text.lines[n]? = some (before ++ (placed.name ++ rest)) ∧
      placed.range = .onLine n before.length (before.length + placed.name.length) := by
  obtain ⟨n, line, hline, hplaced⟩ := exists_line hmem
  obtain ⟨before, token, after, hsplit, _, rfl⟩ := TokenLine.exists_token hplaced
  refine ⟨n, TokenLine.text before, TokenLine.text after, ?_, ?_⟩
  · rw [h.line_eq hline, hsplit, TokenLine.text_append]
    rfl
  · rw [Nat.zero_add]

end TokenSource

namespace Resolve

/-- Takes the names wanted from a list, in order and each as early as it can be, and says
where the last one was taken. -/
def search : List Text → List PlacedName → Option Range
  | [], _ => none
  | _ :: _, [] => none
  | name :: others, placed :: rest =>
    if placed.name = name then
      if others.isEmpty then some placed.range else search others rest
    else search (name :: others) rest

theorem search_nil (listed : List PlacedName) : search [] listed = none := by
  rw [search.eq_def]

/-- Reading one line is searching its part of the list. -/
theorem search_placedNames_append (number : Nat) (line : TokenLine) (listed : List PlacedName) :
    ∀ names column,
      search names (TokenLine.placedNames number column line ++ listed) =
        match scanLine names column line with
        | .found startColumn stopColumn => some (.onLine number startColumn stopColumn)
        | .wanting names => search names listed := by
  induction line with
  | nil =>
      intro names column
      rw [scanLine]
      rfl
  | cons token rest ih =>
      intro names column
      cases names with
      | nil =>
          rw [search_nil, scanLine]
          exact (search_nil listed).symm
      | cons name others =>
          rw [TokenLine.placedNames, scanLine]
          by_cases hkey : token.isKey = true
          · rw [if_pos hkey, List.cons_append, search]
            by_cases hname : token.value = name
            · have htaken : token.isKey = true ∧ token.value = name := ⟨hkey, hname⟩
              rw [if_pos hname, if_pos htaken]
              cases others with
              | nil => rfl
              | cons next more => exact ih (next :: more) (column + token.width)
            · rw [if_neg hname, if_neg (fun h => hname h.2)]
              exact ih (name :: others) (column + token.width)
          · rw [if_neg hkey, if_neg (fun h => hkey h.1)]
            exact ih (name :: others) (column + token.width)

/-- Reading line after line is searching the list of all of them. -/
theorem scanLines_eq_search (source : TokenSource) (count : Nat) :
    ∀ names number,
      scanLines (m := Id) (fun n => source.line? n) names number count =
        search names (source.placedNamesFrom number count) := by
  induction count with
  | zero =>
      intro names number
      rw [TokenSource.placedNamesFrom]
      cases names with
      | nil => rfl
      | cons name others => rfl
  | succ count ih =>
      intro names number
      rw [scanLines, TokenSource.placedNamesFrom]
      show (match source.line? number with | none => _ | some line => _) = _
      cases hline : source.line? number with
      | none =>
          cases names with
          | nil => rfl
          | cons name others => rfl
      | some line =>
          show (match scanLine names 0 line with | .found _ _ => _ | .wanting _ => _) = _
          rw [search_placedNames_append]
          cases hscan : scanLine names 0 line with
          | found startColumn stopColumn => rfl
          | wanting names => exact ih names (number + 1)

theorem mem_of_search_eq_some {listed : List PlacedName} {range : Range} :
    ∀ {names}, search names listed = some range →
      ∃ placed ∈ listed, placed.range = range ∧ names.getLast? = some placed.name := by
  induction listed with
  | nil =>
      intro names h
      cases names with
      | nil => cases h
      | cons name others => cases h
  | cons placed rest ih =>
      intro names h
      cases names with
      | nil => cases h
      | cons name others =>
          rw [search] at h
          split at h
          · next hname =>
              cases others with
              | nil =>
                  injection h with h
                  exact ⟨placed, List.mem_cons_self, h, by rw [hname]; rfl⟩
              | cons next more =>
                  obtain ⟨last, hmem, hrange, hlast⟩ := ih h
                  exact ⟨last, List.mem_cons_of_mem _ hmem, hrange, by
                    rw [List.getLast?_cons_cons, hlast]⟩
          · obtain ⟨last, hmem, hrange, hlast⟩ := ih h
            exact ⟨last, List.mem_cons_of_mem _ hmem, hrange, hlast⟩

/-- The search answers exactly if the list has the names wanted, in order. -/
theorem isSome_search_iff (names : List Text) (listed : List PlacedName) :
    (search names listed).isSome = true ↔
      names ≠ [] ∧ names.Sublist (listed.map PlacedName.name) := by
  induction listed generalizing names with
  | nil =>
      cases names with
      | nil => simp [search]
      | cons name others => simp [search]
  | cons placed rest ih =>
      cases names with
      | nil => simp [search]
      | cons name others =>
          have hwanted : name :: others ≠ [] := List.cons_ne_nil name others
          rw [search, List.map_cons]
          by_cases hname : placed.name = name
          · -- The search goes on with the other names, and so does a way to pick them.
            rw [if_pos hname, hname, List.cons_sublist_cons]
            cases others with
            | nil => simp
            | cons next more => exact (ih (next :: more)).trans (by simp)
          · rw [if_neg hname, ih, List.sublist_cons_iff]
            refine and_congr_right fun _ => ⟨Or.inl, fun hsub => ?_⟩
            rcases hsub with hsub | ⟨_, heq, _⟩
            · exact hsub
            · injection heq with heq
              exact absurd heq.symm hname

/-- If the names wanted can be picked from the list, the search answers, and with nothing
that starts after the last one picked. -/
theorem search_of_sublist {listed : List PlacedName}
    (hsorted : listed.Pairwise fun p q => p.range.start ≤ q.range.start) :
    ∀ {picked : List PlacedName} {last : PlacedName}, picked.Sublist listed →
      picked.getLast? = some last →
      ∃ range, search (picked.map PlacedName.name) listed = some range ∧
        range.start ≤ last.range.start := by
  induction listed with
  | nil =>
      intro picked last hsub hlast
      rw [List.sublist_nil.mp hsub] at hlast
      cases hlast
  | cons first rest ih =>
      intro picked last hsub hlast
      obtain ⟨hfirst, hrest⟩ := List.pairwise_cons.mp hsorted
      rcases picked with _ | ⟨head, tail⟩
      · cases hlast
      · have htail : tail.Sublist rest := by
          cases hsub with
          | cons _ h => exact (List.sublist_cons_self head tail).trans h
          | cons_cons _ h => exact h
        rw [List.map_cons, search]
        by_cases hname : first.name = head.name
        · rw [if_pos hname]
          cases tail with
          | nil =>
              injection hlast with hlast
              refine ⟨first.range, rfl, ?_⟩
              rw [← hlast]
              cases hsub with
              | cons _ h => exact hfirst head (h.subset List.mem_cons_self)
              | cons_cons _ _ => exact Or.inl rfl
          | cons next more =>
              rw [List.getLast?_cons_cons] at hlast
              exact ih hrest htail hlast
        · rw [if_neg hname]
          cases hsub with
          | cons _ h => exact ih hrest h hlast
          | cons_cons _ _ => exact absurd rfl hname

end Resolve

namespace Segment

theorem asKey_ne_nil {segment : Segment} {name : Text} (h : segment.asKey = some name) :
    name ≠ [] := by
  cases segment with
  | index n => cases h
  | key raw =>
      rw [asKey] at h
      split at h
      · cases h
      · next hnumber =>
          injection h with h
          intro hnil
          rw [h, hnil] at hnumber
          exact hnumber rfl

end Segment

namespace Path

theorem ne_nil_of_mem_keys {path : Path} {name : Text} (h : name ∈ path.keys) : name ≠ [] := by
  obtain ⟨segment, _, hkey⟩ := List.mem_filterMap.mp h
  exact Segment.asKey_ne_nil hkey

theorem resolve?_eq_search (path : Path) (source : TokenSource) :
    path.resolve? source = Resolve.search path.keys source.placedNames := by
  rw [resolve?, resolveBy]
  cases path.keys with
  | nil => rw [Resolve.search_nil]; rfl
  | cons name others => exact Resolve.scanLines_eq_search source _ (name :: others) 0

theorem isSome_resolve?_iff (path : Path) (source : TokenSource) :
    (path.resolve? source).isSome = true ↔
      path.keys ≠ [] ∧ path.keys.Sublist (source.placedNames.map PlacedName.name) := by
  rw [resolve?_eq_search]
  exact Resolve.isSome_search_iff path.keys source.placedNames

/-- A path that is found lies over a piece of a line, which is its last name. -/
theorem exists_piece_of_resolve? {text : Text} {source : TokenSource}
    (hsource : source.Spells text) {path : Path} {range : Range}
    (h : path.resolve? source = some range) :
    ∃ n before name rest, text.lines[n]? = some (before ++ (name ++ rest)) ∧
      range = .onLine n before.length (before.length + name.length) ∧
      path.keys.getLast? = some name := by
  rw [resolve?_eq_search] at h
  obtain ⟨placed, hmem, rfl, hlast⟩ := Resolve.mem_of_search_eq_some h
  obtain ⟨n, before, rest, hline, hrange⟩ := hsource.exists_piece hmem
  exact ⟨n, before, placed.name, rest, hline, hrange, hlast⟩

/-- In a source that spells a text, a path is only ever found where the text has the last
name of the path, whichever way the range is read. -/
theorem resolved_range_spells_last_key {text : Text} {source : TokenSource}
    (hsource : source.Spells text) {path : Path} {range : Range}
    (h : path.resolve? source = some range) :
    range.start.line = range.stop.line ∧ range.start.ExistsIn text ∧
      range.stop.ExistsIn text ∧ range.start < range.stop ∧
      ∃ name, path.keys.getLast? = some name ∧ range.slice text = some name ∧
        (range.toCharSpan text).cut text = name := by
  rw [resolve?_eq_search] at h
  obtain ⟨placed, hmem, rfl, hlast⟩ := Resolve.mem_of_search_eq_some h
  obtain ⟨n, before, rest, hline, hrange⟩ := hsource.exists_piece hmem
  have hne : placed.name ≠ [] := ne_nil_of_mem_keys (List.mem_of_getLast? hlast)
  have hpos : 0 < placed.name.length := List.length_pos_iff.mpr hne
  rw [hrange]
  refine ⟨rfl, ⟨_, hline, ?_⟩, ⟨_, hline, ?_⟩, Or.inr ⟨rfl, ?_⟩, placed.name, hlast,
    Range.slice_piece hline, Range.cut_piece hline⟩
  · simp [Range.onLine]
  · simp [Range.onLine]
  · show before.length < before.length + placed.name.length
    omega

/-- Two keys on a line, one of them in quotes, and letters of two bytes before the range. -/
theorem resolved_range_spells_accented_key :
    let text : Text := "- é: x, 'ë': y\n".toList
    let lines : List TokenLine := [[⟨[], "- ".toList⟩, ⟨[KeyScope.yaml.name], "é".toList⟩,
      ⟨[], ": x, '".toList⟩, ⟨[KeyScope.yaml.name], "ë".toList⟩, ⟨[], "': y".toList⟩], []]
    let source : TokenSource := ⟨0, fun n => lines[n]?⟩
    let path : Path := [.key "é".toList, .index 0, .key "ë".toList]
    let range := Range.onLine 0 9 10
    source.Spells text ∧ path.resolve? source = some range ∧ range.slice text = some "ë".toList ∧
      (range.toCharSpan text).cut text = "ë".toList := by
  intro text lines source path range
  have hsource : source.Spells text := TokenSource.spells_of_map_text (by decide) 0
  have hfound : path.resolve? source = some range := by decide
  obtain ⟨_, _, _, _, name, hname, hslice, hcut⟩ := resolved_range_spells_last_key hsource hfound
  have hlast : path.keys.getLast? = some "ë".toList := by decide
  rw [hlast] at hname
  injection hname with hname
  rw [← hname] at hslice hcut
  exact ⟨hsource, hfound, hslice, hcut⟩

end Path

end ApiLint
