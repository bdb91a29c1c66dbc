import ApiLint.Proofs.Tokenize

/-!
# The tokens of a tree

The keys of a tree come ordered by where they start, so what is passed over does not
depend on how the text is cut into lines: a key is kept if it starts no earlier than the
kept key before it ends (`kept`, `takenFrom_eq_kept`). Kept keys follow one another
without overlap, and if keys that are listed are equal or lie apart, every listed key is
kept (`mem_kept`, `mem_kept_keySpans_iff`); what is passed over are repetitions.

`exists_ofTree?` puts this together: there is a tokenized document for every tree, its
lines spell the text, and its names are those of the kept keys.
-/

namespace ApiLint

namespace KeySpan

theorem Fits.name_bounds {text : Text} {key : KeySpan} (h : key.Fits text) :
    key.outer.start ≤ key.name.start ∧ key.name.start < key.name.stop ∧
      key.name.stop ≤ key.outer.stop := by
  obtain ⟨before, opening, name, closing, _, _, houter, hname, _, _, _, hne⟩ := h
  have hpos := Text.byteLength_pos hne
  rw [houter, hname]
  simp only [Text.byteLength_append]
  omega

/-- What precedes a key that fits a text. -/
theorem Fits.exists_front {text : Text} {key : KeySpan} (h : key.Fits text) :
    ∃ front rest, text = front ++ rest ∧ key.outer.start = front.byteLength ∧
      key.row = front.count '\n' := by
  obtain ⟨front, opening, name, closing, behind, hspelled, houter, _, hrow, _, _, _⟩ := h
  exact ⟨front, _, hspelled, by rw [houter], hrow⟩

/-- A key on a later row than a front of the text ends on starts behind it. -/
theorem Fits.lt_start {text front rest : Text} {key : KeySpan} (h : key.Fits text)
    (htext : text = front ++ rest) (hrow : front.count '\n' < key.row) :
    front.byteLength < key.outer.start := by
  obtain ⟨before, behind, hbefore, hstart, hkeyrow⟩ := h.exists_front
  rw [hstart]
  exact Text.byteLength_lt_of_count_lt (htext.symm.trans hbefore) (hkeyrow ▸ hrow)

/-- A key on an earlier row ends before one on a later row starts. -/
theorem Fits.stop_le_start {text : Text} {first second : KeySpan} (hfirst : first.Fits text)
    (hsecond : second.Fits text) (hrow : first.row < second.row) :
    first.outer.stop ≤ second.outer.start := by
  obtain ⟨front, opening, name, closing, behind, hspelled, houter, _, hfirstrow, _, hline, _⟩ :=
    hfirst
  have hsplit : text = (front ++ (opening ++ (name ++ closing))) ++ behind := by
    rw [hspelled]
    simp
  have hcount : (front ++ (opening ++ (name ++ closing))).count '\n' < second.row := by
    rw [List.count_append, List.count_eq_zero_of_not_mem hline, ← hfirstrow]
    exact hrow
  have hlt := hsecond.lt_start hsplit hcount
  rw [Text.byteLength_append] at hlt
  rw [houter]
  exact Nat.le_of_lt hlt

theorem Fits.row_le_of_start_le {text : Text} {first second : KeySpan} (hfirst : first.Fits text)
    (hsecond : second.Fits text) (hstart : first.outer.start ≤ second.outer.start) :
    first.row ≤ second.row := by
  rcases Nat.lt_or_ge second.row first.row with hlt | hge
  · have hstop := hsecond.stop_le_start hfirst hlt
    have hpos := hsecond.start_lt_stop
    omega
  · exact hge

end KeySpan

namespace TokenizedDocument

/-- The keys that start no earlier than the kept key before them ends, the first of them no
earlier than the byte reached. -/
def kept : Nat → List KeySpan → List KeySpan
  | _, [] => []
  | reached, key :: rest =>
    if key.outer.start < reached then kept reached rest else key :: kept key.outer.stop rest

theorem kept_sublist (keys : List KeySpan) : ∀ reached, (kept reached keys).Sublist keys := by
  induction keys with
  | nil => exact fun _ => .slnil
  | cons key rest ih =>
      intro reached
      rw [kept]
      split
      · exact (ih reached).cons key
      · exact (ih key.outer.stop).cons_cons key

theorem reached_le_of_mem_kept {keys : List KeySpan} {key : KeySpan}
    (hspans : ∀ key ∈ keys, key.outer.start ≤ key.outer.stop) :
    ∀ reached, key ∈ kept reached keys → reached ≤ key.outer.start := by
  induction keys with
  | nil =>
      intro reached h
      cases h
  | cons first rest ih =>
      intro reached h
      replace ih := ih fun other hother => hspans other (List.mem_cons_of_mem _ hother)
      have hfirst := hspans first List.mem_cons_self
      rw [kept] at h
      split at h
      · exact ih reached h
      · next hge =>
          rcases List.mem_cons.mp h with rfl | hmem
          · exact Nat.le_of_not_lt hge
          · have hstop := ih _ hmem
            omega

/-- Kept keys follow one another without overlap. -/
theorem kept_pairwise (keys : List KeySpan)
    (hspans : ∀ key ∈ keys, key.outer.start ≤ key.outer.stop) :
    ∀ reached, (kept reached keys).Pairwise fun a b => a.outer.stop ≤ b.outer.start := by
  induction keys with
  | nil => exact fun _ => .nil
  | cons first rest ih =>
      intro reached
      have hrest := fun other hother => hspans other (List.mem_cons_of_mem first hother)
      rw [kept]
      split
      · exact ih hrest reached
      · exact List.pairwise_cons.mpr
          ⟨fun key hkey => reached_le_of_mem_kept hrest _ hkey, ih hrest first.outer.stop⟩

/-- Among keys that are equal or lie apart, all are kept. -/
theorem mem_kept {keys : List KeySpan} {key : KeySpan}
    (hspans : ∀ key ∈ keys, key.outer.start < key.outer.stop)
    (hsorted : keys.Pairwise fun a b => a.outer.start ≤ b.outer.start)
    (happart : ∀ a ∈ keys, ∀ b ∈ keys,
      a = b ∨ a.outer.stop ≤ b.outer.start ∨ b.outer.stop ≤ a.outer.start) :
    ∀ reached, key ∈ keys → reached ≤ key.outer.start → key ∈ kept reached keys := by
  induction keys with
  | nil =>
      intro reached h
      cases h
  | cons first rest ih =>
      intro reached hmem hreached
      obtain ⟨hfirst, hrest⟩ := List.pairwise_cons.mp hsorted
      replace ih := ih (fun a ha => hspans a (List.mem_cons_of_mem _ ha)) hrest
        fun a ha b hb => happart a (List.mem_cons_of_mem _ ha) b (List.mem_cons_of_mem _ hb)
      rw [kept]
      rcases List.mem_cons.mp hmem with rfl | hin
      · rw [if_neg (Nat.not_lt.mpr hreached)]
        exact List.mem_cons_self
      · split
        · exact ih reached hin hreached
        · rcases happart first List.mem_cons_self key hmem with rfl | hbefore | hafter
          · exact List.mem_cons_self
          · exact List.mem_cons_of_mem _ (ih _ hin hbefore)
          · have hstart := hfirst key hin
            have hkey := hspans key hmem
            omega

/-- Keys without overlap can be picked, in their order, from any such keys they are among. -/
theorem sublist_of_subset {listed : List KeySpan}
    (hspans : ∀ key ∈ listed, key.outer.start < key.outer.stop)
    (hlisted : listed.Pairwise fun a b => a.outer.stop ≤ b.outer.start) :
    ∀ picked : List KeySpan, (picked.Pairwise fun a b => a.outer.stop ≤ b.outer.start) →
      picked ⊆ listed → picked.Sublist listed := by
  induction listed with
  | nil =>
      intro picked _ hsub
      have hnil : picked = [] := List.subset_nil.mp hsub
      subst hnil
      exact .slnil
  | cons first rest ih =>
      intro picked hpicked hsub
      obtain ⟨hfirst, hrest⟩ := List.pairwise_cons.mp hlisted
      replace ih := ih (fun key h => hspans key (List.mem_cons_of_mem _ h)) hrest
      have hpos := hspans first List.mem_cons_self
      -- What comes after the first listed key is among the other ones.
      have hlater : ∀ key ∈ first :: rest, first.outer.stop ≤ key.outer.start → key ∈ rest := by
        intro key hkey hstop
        rcases List.mem_cons.mp hkey with rfl | hmem
        · omega
        · exact hmem
      rcases picked with _ | ⟨head, tail⟩
      · exact List.nil_sublist _
      · obtain ⟨hhead, htail⟩ := List.pairwise_cons.mp hpicked
        have hin := fun key hkey => hsub (List.mem_cons_of_mem head (a := key) hkey)
        rcases List.mem_cons.mp (hsub List.mem_cons_self) with rfl | hmem
        · exact (ih tail htail fun key hkey => hlater key (hin key hkey) (hhead key hkey)).cons_cons _
        · have hstart := hfirst head hmem
          have hheadpos := hspans head (List.mem_cons_of_mem _ hmem)
          refine (ih (head :: tail) hpicked fun key hkey => ?_).cons first
          rcases List.mem_cons.mp hkey with rfl | htailmem
          · exact hmem
          · have hnext := hhead key htailmem
            exact hlater key (hin key htailmem) (by omega)

theorem lt_row_of_mem_afterRow {keys : List KeySpan} {row : Nat} {key : KeySpan}
    (hrows : keys.Pairwise fun a b => a.row ≤ b.row) (h : key ∈ afterRow row keys) :
    row < key.row := by
  induction keys with
  | nil => cases h
  | cons first rest ih =>
      obtain ⟨hfirst, hrest⟩ := List.pairwise_cons.mp hrows
      rw [afterRow, List.dropWhile_cons] at h
      split at h
      · exact ih hrest h
      · next hrow =>
          have hlt : row < first.row := by simpa using hrow
          rcases List.mem_cons.mp h with rfl | hmem
          · exact hlt
          · exact Nat.lt_of_lt_of_le hlt (hfirst key hmem)

/-- The keys of one row are kept as long as later rows are further on. -/
theorem taken_append_kept {text : Text} {row : Nat} (next : Nat) (keys : List KeySpan)
    (hfits : ∀ key ∈ keys, key.Fits text) (hrow : ∀ key ∈ keys, row ≤ key.row)
    (hnext : ∀ key ∈ keys, row < key.row → next ≤ key.outer.start) :
    ∀ reached, (∀ key ∈ keys, row < key.row → reached ≤ key.outer.start) →
      taken row reached keys ++ kept next (afterRow row keys) = kept reached keys := by
  induction keys with
  | nil => exact fun _ _ => rfl
  | cons key rest ih =>
      intro reached hreached
      have hin : ∀ other ∈ rest, other ∈ key :: rest := fun other h => List.mem_cons_of_mem _ h
      replace ih := ih (fun other h => hfits other (hin other h))
        (fun other h => hrow other (hin other h)) fun other h => hnext other (hin other h)
      have hkey := hrow key List.mem_cons_self
      rw [taken, afterRow, List.dropWhile_cons, kept]
      by_cases hsame : key.row ≤ row
      · rw [if_pos hsame, if_pos (decide_eq_true hsame)]
        by_cases hskip : key.outer.start < reached
        · rw [if_pos (Or.inr hskip), if_pos hskip]
          exact ih reached fun other h => hreached other (hin other h)
        · rw [if_neg (by omega), if_neg hskip, List.cons_append]
          congr 1
          refine ih key.outer.stop fun other h hlater => ?_
          exact (hfits key List.mem_cons_self).stop_le_start (hfits other (hin other h)) (by omega)
      · have hlater := hreached key List.mem_cons_self (by omega)
        have hfurther := hnext key List.mem_cons_self (by omega)
        rw [if_neg hsame, if_neg (by simpa using hsame), List.nil_append, kept,
          if_neg (by omega), if_neg (by omega)]

/-- Where keys come in order, the lines play no part in which of them are kept. -/
theorem takenFrom_eq_kept {text : Text} (rest : Text) :
    ∀ before keys, text = before ++ rest → (∀ key ∈ keys, key.Fits text) →
      (∀ key ∈ keys, before.count '\n' ≤ key.row) →
      (keys.Pairwise fun a b => a.row ≤ b.row) →
      takenFrom (before.count '\n') before.byteLength keys rest.lines =
        kept before.byteLength keys := by
  induction rest using Text.lines_induction with
  | last line hline =>
      intro before keys htext hfits hrow hrows
      -- No key is on a row after the last one.
      have hlast : ∀ key ∈ keys, key.row ≤ before.count '\n' := by
        intro key hkey
        obtain ⟨front, behind, hfront, _, hkeyrow⟩ := (hfits key hkey).exists_front
        have hcount : before.count '\n' = front.count '\n' + behind.count '\n' := by
          rw [← List.count_append, ← hfront, htext, List.count_append,
            List.count_eq_zero_of_not_mem hline, Nat.add_zero]
        omega
      have hnone : afterRow (before.count '\n') keys = [] := by
        refine List.eq_nil_iff_forall_not_mem.mpr fun key hkey => ?_
        have hlt := lt_row_of_mem_afterRow hrows hkey
        have hle := hlast key (afterRow_subset _ _ hkey)
        omega
      have h := taken_append_kept before.byteLength keys hfits hrow
        (fun key hkey hlater => absurd (hlast key hkey) (by omega)) before.byteLength
        fun key hkey hlater => absurd (hlast key hkey) (by omega)
      rw [Text.lines_of_not_mem hline, takenFrom, takenFrom, ← h, hnone, kept]
  | more line rest hline ih =>
      intro before keys htext hfits hrow hrows
      have hcount := Text.count_append_newline before hline
      have hlength := Text.byteLength_append_newline before line
      have hnext : ∀ key ∈ keys, before.count '\n' < key.row →
          before.byteLength + line.byteLength + 1 ≤ key.outer.start := by
        intro key hkey hlater
        have hsplit : text = (before ++ line) ++ '\n' :: rest := by
          rw [htext, List.append_assoc]
        have hlt := (hfits key hkey).lt_start hsplit
          (by rw [List.count_append, List.count_eq_zero_of_not_mem hline]; exact hlater)
        rw [Text.byteLength_append] at hlt
        exact hlt
      have hrest := ih (before ++ line ++ ['\n']) (afterRow (before.count '\n') keys)
        (by rw [htext]; simp) (fun key hkey => hfits key (afterRow_subset _ _ hkey))
        (fun key hkey => by rw [hcount]; exact lt_row_of_mem_afterRow hrows hkey)
        (hrows.sublist (List.dropWhile_sublist _))
      rw [hcount, hlength] at hrest
      rw [Text.lines_append_newline hline, takenFrom, hrest]
      refine taken_append_kept _ keys hfits hrow hnext before.byteLength fun key hkey hlater => ?_
      have hfurther := hnext key hkey hlater
      omega

/-! ## The document of a tree -/

theorem placedNames_ofLines (lines : List TokenLine) :
    (TokenSource.ofLines lines).placedNames = TokenLine.placedNamesAll 0 lines := by
  have h : ∀ rest number count, lines.drop number = rest → rest.length < count →
      (TokenSource.ofLines lines).placedNamesFrom number count =
        TokenLine.placedNamesAll number rest := by
    intro rest
    induction rest with
    | nil =>
        intro number count hdrop hcount
        obtain ⟨n, rfl⟩ : ∃ n, count = n + 1 := ⟨count - 1, by omega⟩
        have hnone : (TokenSource.ofLines lines).line? number = none :=
          List.getElem?_eq_none (List.drop_eq_nil_iff.mp hdrop)
        rw [TokenSource.placedNamesFrom, hnone, TokenLine.placedNamesAll]
    | cons line more ih =>
        intro number count hdrop hcount
        obtain ⟨n, rfl⟩ : ∃ n, count = n + 1 := ⟨count - 1, by omega⟩
        have hsome : (TokenSource.ofLines lines).line? number = some line := by
          show lines[number]? = some line
          rw [← List.head?_drop, hdrop, List.head?_cons]
        have hmore : lines.drop (number + 1) = more := by
          rw [← List.tail_drop, hdrop, List.tail_cons]
        rw [List.length_cons] at hcount
        rw [TokenSource.placedNamesFrom, hsome, TokenLine.placedNamesAll,
          ← ih (number + 1) n hmore (by omega)]
  exact h lines 0 _ rfl (Nat.lt_succ_self _)

/-- Every tree over a text gives a tokenized document, which spells the text and has the
names of the kept keys, each where it stands in the text. -/
theorem exists_ofTree? (text : Text) (grammar : Grammar) (tree : Tree) :
    ∃ document, ofTree? text grammar tree = some document ∧ document.source.Spells text ∧
      document.source.placedNames =
        (kept 0 (tree.keySpans text)).map (KeySpan.placed text) := by
  have hfits : ∀ key ∈ tree.keySpans text, key.Fits text := fun key => Tree.keySpans_fit
  have hrows : (tree.keySpans text).Pairwise fun a b => a.row ≤ b.row :=
    (Tree.keySpans_sorted text tree).imp_of_mem fun ha hb hstart =>
      (hfits _ ha).row_le_of_start_le (hfits _ hb) hstart
  obtain ⟨lines, hlines, htext, _, hplaced⟩ := splitLines?_spec grammar hfits
  have hkept : takenFrom 0 0 (tree.keySpans text) text.lines = kept 0 (tree.keySpans text) :=
    takenFrom_eq_kept text [] (tree.keySpans text) rfl hfits (fun _ _ => Nat.zero_le _) hrows
  refine ⟨⟨grammar, lines⟩, ?_, TokenSource.spells_of_map_text htext _, ?_⟩
  · rw [ofTree?, hlines, Option.map_some]
  · rw [source, placedNames_ofLines, hplaced, hkept]

/-- If the scalars of a tree do not overlap, every key of it is kept. -/
theorem mem_kept_keySpans_iff {text : Text} {tree : Tree} (happart : tree.ScalarsApart)
    {key : KeySpan} : key ∈ kept 0 (tree.keySpans text) ↔ key ∈ tree.keySpans text := by
  refine ⟨fun h => (kept_sublist _ 0).subset h, fun h => ?_⟩
  have hpos : ∀ key ∈ tree.keySpans text, key.outer.start < key.outer.stop :=
    fun key hkey => (Tree.keySpans_fit hkey).start_lt_stop
  exact mem_kept hpos (Tree.keySpans_sorted text tree)
    (fun a ha b hb => Tree.keySpans_apart happart ha hb) 0 h (Nat.zero_le _)

/-- The names of kept keys come in the order of their positions. -/
theorem placed_kept_sorted {text : Text} {keys : List KeySpan}
    (hfits : ∀ key ∈ keys, key.Fits text) (reached : Nat) :
    ((kept reached keys).map (KeySpan.placed text)).Pairwise fun p q =>
      p.range.start ≤ q.range.start := by
  have happart := kept_pairwise keys (fun key h => Nat.le_of_lt (hfits key h).start_lt_stop)
    reached
  refine List.pairwise_map.mpr (happart.imp_of_mem fun ha hb hle => ?_)
  have hfirst := (hfits _ ((kept_sublist keys reached).subset ha)).name_bounds
  have hsecond := (hfits _ ((kept_sublist keys reached).subset hb)).name_bounds
  exact Position.ofByte_le_ofByte text (by omega)

end TokenizedDocument

end ApiLint
