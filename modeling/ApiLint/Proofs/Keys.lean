import ApiLint.Proofs.Keys.Order
import ApiLint.Proofs.Position
import ApiLint.Proofs.Tree.Preorder

/-!
# The keys that a tree lists

A listed key is a piece of the text: `KeySpan.Fits` names the text before it, the
quotes around it if there are any, its name and the text after it. Whatever
`KeySpan.ofSpan?` answers fits the text (`fits_of_ofSpan?`), and it answers for every
scalar on one line with a name (`ofSpan?_eq`).

`keySpans` lists the keys of all pairs of a tree, by where they start
(`mem_keySpans`, `keySpans_eq`). If the scalars of the tree do not overlap, keys
that are listed are equal or lie apart (`keySpans_apart`).
-/

namespace ApiLint

/-- No offset is in both spans. -/
def Span.Apart (a b : Span) : Prop :=
  ∀ n, ¬((a.start ≤ n ∧ n < a.stop) ∧ b.start ≤ n ∧ n < b.stop)

theorem Span.apart_iff {a b : Span} : a.Apart b ↔ min a.stop b.stop ≤ max a.start b.start := by
  constructor
  · intro h
    have hlatest := h (max a.start b.start)
    omega
  · intro h n hn
    omega

instance (a b : Span) : Decidable (a.Apart b) := decidable_of_iff _ Span.apart_iff.symm

namespace KeySpan

/-- The key lies on the characters of a text, on one line and on the row that it says; it has
a name, with something around it on both sides or on neither. -/
inductive Fits (text : Text) (key : KeySpan) : Prop where
  | mk (before opening name closing after : Text)
    (spelling : text = before ++ (opening ++ (name ++ (closing ++ after))))
    (outer_eq : key.outer = ⟨before.byteLength,
      before.byteLength + (opening ++ (name ++ closing)).byteLength⟩)
    (name_eq : key.name = ⟨(before ++ opening).byteLength,
      (before ++ opening).byteLength + name.byteLength⟩)
    (row_eq : key.row = before.count '\n')
    (around : opening = [] ∧ closing = [] ∨ opening ≠ [] ∧ closing ≠ [])
    (one_line : '\n' ∉ opening ++ (name ++ closing))
    (named : name ≠ [])

theorem Fits.start_lt_stop {text : Text} {key : KeySpan} (h : key.Fits text) :
    key.outer.start < key.outer.stop := by
  obtain ⟨before, opening, name, closing, after, _, houter, _, _, _, _, hne⟩ := h
  have hpos := Text.byteLength_pos hne
  rw [houter]
  simp only [Text.byteLength_append]
  omega

/-- A piece in quotes has the same quote at both ends, and it is not one quote alone. -/
theorem inQuotes_iff {piece : Text} :
    inQuotes piece = true ↔
      ∃ (quote : Char) (name : Text), (quote = '"' ∨ quote = '\'') ∧
        piece = quote :: (name ++ [quote]) := by
  constructor
  · intro h
    rw [inQuotes, Bool.and_eq_true, Bool.or_eq_true, Bool.and_eq_true, Bool.and_eq_true,
      decide_eq_true_iff] at h
    obtain ⟨hlong, hends⟩ := h
    have hquote : ∃ quote, (quote = '"' ∨ quote = '\'') ∧ piece.head? = some quote ∧
        piece.getLast? = some quote := by
      rcases hends with ⟨hhead, hlast⟩ | ⟨hhead, hlast⟩
      · exact ⟨'"', Or.inl rfl, beq_iff_eq.mp hhead, beq_iff_eq.mp hlast⟩
      · exact ⟨'\'', Or.inr rfl, beq_iff_eq.mp hhead, beq_iff_eq.mp hlast⟩
    obtain ⟨quote, hkind, hhead, hlast⟩ := hquote
    rcases piece with _ | ⟨first, rest⟩
    · cases hhead
    · injection hhead with hhead
      subst hhead
      have hsize : first.utf8Size = 1 := by rcases hkind with rfl | rfl <;> rfl
      -- One quote alone takes one byte, so there is more than the first of them.
      rcases rest with _ | ⟨second, more⟩
      · rw [Text.byteLength_cons, hsize] at hlong
        exact absurd hlong (by decide)
      · rw [List.getLast?_cons_cons] at hlast
        obtain ⟨name, hname⟩ := List.getLast?_eq_some_iff.mp hlast
        exact ⟨first, name, hkind, by rw [hname]⟩
  · rintro ⟨quote, name, hkind, rfl⟩
    have hsize : 2 ≤ Text.byteLength (quote :: (name ++ [quote])) := by
      rw [Text.byteLength_cons, Text.byteLength_append, Text.byteLength_cons]
      have hpos := quote.utf8Size_pos
      omega
    have hlast : (quote :: (name ++ [quote])).getLast? = some quote := by
      rw [← List.cons_append, List.getLast?_concat]
    rw [inQuotes, decide_eq_true hsize, Bool.true_and, List.head?_cons, hlast]
    rcases hkind with rfl | rfl <;> rfl

theorem inQuotes_eq_false_iff {piece : Text} :
    inQuotes piece = false ↔ ∀ (mark : Char) (inner : Text),
      piece = mark :: (inner ++ [mark]) → mark ≠ '"' ∧ mark ≠ '\'' := by
  rw [Bool.eq_false_iff, Ne, inQuotes_iff]
  constructor
  · intro h mark inner hpiece
    exact ⟨fun hmark => h ⟨mark, inner, Or.inl hmark, hpiece⟩,
      fun hmark => h ⟨mark, inner, Or.inr hmark, hpiece⟩⟩
  · rintro h ⟨mark, inner, hkind, hpiece⟩
    obtain ⟨hdouble, hsingle⟩ := h mark inner hpiece
    exact hkind.elim hdouble hsingle

theorem rowOf_byteLength (before after : Text) :
    rowOf (before ++ after) before.byteLength = before.count '\n' := by
  rw [rowOf, Text.takeBytes_byteLength]

/-- Reading a key off a piece of the text between two others. -/
theorem ofSpan?_eq (before piece after : Text) (outer name : ByteSpan)
    (houter : outer = ⟨before.byteLength, before.byteLength + piece.byteLength⟩)
    (hname : name = if inQuotes piece then ⟨outer.start + 1, outer.stop - 1⟩ else outer) :
    ofSpan? (before ++ (piece ++ after)) outer =
      if '\n' ∉ piece ∧ name.start < name.stop then some ⟨before.count '\n', outer, name⟩
      else none := by
  have hstart : rowOf (before ++ (piece ++ after)) outer.start = before.count '\n' := by
    rw [houter]
    exact rowOf_byteLength before (piece ++ after)
  have hstop : rowOf (before ++ (piece ++ after)) outer.stop =
      before.count '\n' + piece.count '\n' := by
    rw [houter, ← List.append_assoc, ← List.count_append, ← rowOf_byteLength (before ++ piece) after,
      Text.byteLength_append]
  have hcut : outer.cut? (before ++ (piece ++ after)) = some piece := by
    rw [houter]
    exact Text.bytes?_middle before piece after
  rw [ofSpan?, hstart, hstop]
  by_cases hline : '\n' ∈ piece
  · have hpos : 0 < piece.count '\n' := List.count_pos_iff.mpr hline
    rw [if_pos (by omega), if_neg (fun h => h.1 hline)]
  · have hzero : piece.count '\n' = 0 := List.count_eq_zero_of_not_mem hline
    rw [hzero, if_neg (by simp)]
    show (outer.cut? _).bind _ = _
    rw [hcut, Option.bind_some, ← hname]
    simp only [hline, not_false_eq_true, true_and]

/-- A key that is spelled in the text is found there. -/
theorem ofSpan?_spelled (before after : Text) {quote name : Text}
    (hquote : quote = ['"'] ∨ quote = ['\''] ∨ quote = [] ∧ inQuotes name = false)
    (hline : '\n' ∉ name) (hne : name ≠ []) :
    ofSpan? (before ++ (quote ++ (name ++ (quote ++ after))))
        ⟨before.byteLength, before.byteLength + (quote ++ (name ++ quote)).byteLength⟩ =
      some ⟨before.count '\n',
        ⟨before.byteLength, before.byteLength + (quote ++ (name ++ quote)).byteLength⟩,
        ⟨(before ++ quote).byteLength, (before ++ quote).byteLength + name.byteLength⟩⟩ := by
  have hpos := Text.byteLength_pos hne
  have hquotes : inQuotes (quote ++ (name ++ quote)) = true ∧ quote.byteLength = 1 ∨
      inQuotes (quote ++ (name ++ quote)) = false ∧ quote = [] := by
    rcases hquote with rfl | rfl | ⟨rfl, hbare⟩
    · exact Or.inl ⟨inQuotes_iff.mpr ⟨'"', name, Or.inl rfl, rfl⟩, rfl⟩
    · exact Or.inl ⟨inQuotes_iff.mpr ⟨'\'', name, Or.inr rfl, rfl⟩, rfl⟩
    · exact Or.inr ⟨by simpa using hbare, rfl⟩
  have hpiece : '\n' ∉ quote ++ (name ++ quote) := by
    rcases hquote with rfl | rfl | ⟨rfl, _⟩ <;> simp [hline]
  have hassoc : before ++ (quote ++ (name ++ (quote ++ after))) =
      before ++ ((quote ++ (name ++ quote)) ++ after) := by simp
  rw [hassoc, ofSpan?_eq before _ after _
    ⟨(before ++ quote).byteLength, (before ++ quote).byteLength + name.byteLength⟩ rfl]
  · rw [if_pos ⟨hpiece, Nat.lt_add_of_pos_right hpos⟩]
  · rcases hquotes with ⟨hq, hone⟩ | ⟨hq, hnil⟩
    · rw [if_pos hq]
      simp only [Text.byteLength_append, hone, Span.mk.injEq, true_and]
      omega
    · rw [if_neg (by simp [hq]), hnil]
      simp

/-- A key is read off a piece of the text on one line, and it covers that piece. -/
theorem exists_piece_of_ofSpan? {text : Text} {outer : ByteSpan} {key : KeySpan}
    (h : ofSpan? text outer = some key) :
    ∃ before piece after name, text = before ++ (piece ++ after) ∧
      outer = ⟨before.byteLength, before.byteLength + piece.byteLength⟩ ∧
      (name = if inQuotes piece then ⟨outer.start + 1, outer.stop - 1⟩ else outer) ∧
      '\n' ∉ piece ∧ name.start < name.stop ∧ key = ⟨before.count '\n', outer, name⟩ := by
  obtain ⟨piece, hcut⟩ : ∃ piece, outer.cut? text = some piece := by
    rw [ofSpan?] at h
    split at h
    · cases h
    · obtain ⟨piece, hcut, _⟩ := Option.bind_eq_some_iff.mp h
      exact ⟨piece, hcut⟩
  obtain ⟨before, after, htext, hstart, hstop⟩ := Text.bytes?_eq_some_iff.mp hcut
  have houter : outer = ⟨before.byteLength, before.byteLength + piece.byteLength⟩ := by
    rw [hstart, hstop]
  rw [htext, ofSpan?_eq before piece after outer _ houter rfl] at h
  obtain ⟨⟨hline, hlt⟩, hkey⟩ := (Option.ite_none_right_eq_some).mp h
  injection hkey with hkey
  exact ⟨before, piece, after, _, htext, houter, rfl, hline, hlt, hkey.symm⟩

theorem outer_of_ofSpan? {text : Text} {outer : ByteSpan} {key : KeySpan}
    (h : ofSpan? text outer = some key) : key.outer = outer := by
  obtain ⟨_, _, _, _, _, _, _, _, _, hkey⟩ := exists_piece_of_ofSpan? h
  rw [hkey]

/-- A key is read off exactly where the text spells one: a name on one line, between two
equal quotes or as it is. -/
theorem ofSpan?_eq_some_iff {text : Text} {outer : ByteSpan} {key : KeySpan} :
    ofSpan? text outer = some key ↔ ∃ before quote name after : Text,
      text = before ++ (quote ++ (name ++ (quote ++ after))) ∧
      outer = ⟨before.byteLength, before.byteLength + (quote ++ (name ++ quote)).byteLength⟩ ∧
      (quote = ['"'] ∨ quote = ['\''] ∨ quote = [] ∧ inQuotes name = false) ∧
      '\n' ∉ name ∧ name ≠ [] ∧
      key = ⟨before.count '\n', outer,
        ⟨(before ++ quote).byteLength, (before ++ quote).byteLength + name.byteLength⟩⟩ := by
  constructor
  · intro h
    obtain ⟨before, piece, after, name, htext, houter, hname, hline, hlt, rfl⟩ :=
      exists_piece_of_ofSpan? h
    by_cases hq : inQuotes piece = true
    · rw [if_pos hq] at hname
      obtain ⟨quote, inner, hkind, rfl⟩ := inQuotes_iff.mp hq
      have hsize : quote.utf8Size = 1 := by rcases hkind with rfl | rfl <;> rfl
      have hspan : name = ⟨(before ++ [quote]).byteLength,
          (before ++ [quote]).byteLength + inner.byteLength⟩ := by
        rw [hname, houter]
        simp only [Text.byteLength_append, Text.byteLength_cons, Text.byteLength_nil, hsize,
          Span.mk.injEq, true_and]
        omega
      have hne : inner ≠ [] := by
        rintro rfl
        rw [hspan] at hlt
        simp at hlt
      simp only [List.mem_cons, List.mem_append, not_or] at hline
      refine ⟨before, [quote], inner, after, by simp [htext], by simpa using houter, ?_,
        hline.2.1, hne, by rw [hspan]⟩
      rcases hkind with rfl | rfl
      · exact Or.inl rfl
      · exact Or.inr (Or.inl rfl)
    · rw [if_neg hq] at hname
      have hne : piece ≠ [] := by
        rintro rfl
        rw [hname, houter] at hlt
        simp at hlt
      exact ⟨before, [], piece, after, by simp [htext], by simpa using houter,
        Or.inr (Or.inr ⟨rfl, Bool.eq_false_iff.mpr hq⟩), hline, hne, by simp [hname, houter]⟩
  · rintro ⟨before, quote, name, after, rfl, rfl, hquote, hline, hne, rfl⟩
    exact ofSpan?_spelled before after hquote hline hne

theorem fits_of_ofSpan? {text : Text} {outer : ByteSpan} {key : KeySpan}
    (h : ofSpan? text outer = some key) : key.Fits text := by
  obtain ⟨before, quote, name, after, htext, houter, hquote, hline, hne, rfl⟩ :=
    ofSpan?_eq_some_iff.mp h
  refine .mk before quote name quote after htext houter rfl rfl ?_ ?_ hne
  · rcases hquote with rfl | rfl | ⟨rfl, _⟩ <;> simp
  · rcases hquote with rfl | rfl | ⟨rfl, _⟩ <;> simp [hline]

end KeySpan

/-! ## The keys of a tree -/

namespace Tree

theorem keySpan?_eq_some_iff {text : Text} {pair : Tree} {key : KeySpan} :
    pair.keySpan? text = some key ↔ pairKinds.contains pair.kind = true ∧
      ∃ inner scalar, pair.childIn? .key = some inner ∧ inner.scalar? = some scalar ∧
        KeySpan.ofSpan? text scalar.span = some key := by
  rw [keySpan?]
  by_cases hkind : pairKinds.contains pair.kind = true
  · rw [if_pos hkind]
    simp only [hkind, true_and]
    constructor
    · intro h
      obtain ⟨inner, hinner, h⟩ := Option.bind_eq_some_iff.mp h
      obtain ⟨scalar, hscalar, hkey⟩ := Option.bind_eq_some_iff.mp h
      exact ⟨inner, scalar, hinner, hscalar, hkey⟩
    · rintro ⟨inner, scalar, hinner, hscalar, hkey⟩
      exact Option.bind_eq_some_iff.mpr ⟨inner, hinner,
        Option.bind_eq_some_iff.mpr ⟨scalar, hscalar, hkey⟩⟩
  · rw [if_neg hkind]
    constructor
    · intro h
      cases h
    · intro h
      exact absurd h.1 hkind

theorem mem_keySpans {text : Text} {tree : Tree} {key : KeySpan} :
    key ∈ tree.keySpans text ↔ ∃ pair ∈ tree.preorder, pair.keySpan? text = some key := by
  rw [keySpans, List.mem_mergeSort, visited_eq_preorder, List.mem_filterMap]

theorem keySpans_fit {text : Text} {tree : Tree} {key : KeySpan} (h : key ∈ tree.keySpans text) :
    key.Fits text := by
  obtain ⟨pair, _, hpair⟩ := mem_keySpans.mp h
  obtain ⟨_, _, scalar, _, _, hkey⟩ := keySpan?_eq_some_iff.mp hpair
  exact KeySpan.fits_of_ofSpan? hkey

theorem keySpans_eq (text : Text) (tree : Tree) :
    tree.keySpans text = KeySpan.sortByStart (tree.preorder.filterMap (keySpan? text)) := by
  rw [← visited_eq_preorder]
  rfl

theorem keySpans_sorted (text : Text) (tree : Tree) :
    (tree.keySpans text).Pairwise fun a b => a.outer.start ≤ b.outer.start := by
  rw [keySpans_eq]
  exact (KeySpan.sortByStart_stablySorted _).ascending

/-- Any two scalars of the tree cover the same bytes, or no byte is in both. -/
def ScalarsApart (tree : Tree) : Prop :=
  ∀ a ∈ tree.preorder, ∀ b ∈ tree.preorder,
    isScalarKind a.kind = true → isScalarKind b.kind = true →
      a.span = b.span ∨ a.span.Apart b.span

instance (tree : Tree) : Decidable tree.ScalarsApart :=
  inferInstanceAs (Decidable (∀ a ∈ tree.preorder, ∀ b ∈ tree.preorder, _ → _ → _ ∨ _))

/-- A listed key is read off a scalar of the tree. -/
theorem exists_scalar_of_mem_keySpans {text : Text} {tree : Tree} {key : KeySpan}
    (h : key ∈ tree.keySpans text) :
    ∃ scalar ∈ tree.preorder, isScalarKind scalar.kind = true ∧
      KeySpan.ofSpan? text scalar.span = some key := by
  obtain ⟨pair, hpair, hkey⟩ := mem_keySpans.mp h
  obtain ⟨_, inner, scalar, hinner, hscalar, hkey⟩ := keySpan?_eq_some_iff.mp hkey
  obtain ⟨hmem, hkind⟩ := scalar?_spec hscalar
  exact ⟨scalar, preorder_subset hpair
    (preorder_subset_of_mem_children (mem_children_of_childIn? hinner) hmem), hkind, hkey⟩

theorem keySpans_apart {text : Text} {tree : Tree} (happart : tree.ScalarsApart) {a b : KeySpan}
    (ha : a ∈ tree.keySpans text) (hb : b ∈ tree.keySpans text) :
    a = b ∨ a.outer.stop ≤ b.outer.start ∨ b.outer.stop ≤ a.outer.start := by
  have halt := (keySpans_fit ha).start_lt_stop
  have hblt := (keySpans_fit hb).start_lt_stop
  obtain ⟨s, hs, hskind, hsa⟩ := exists_scalar_of_mem_keySpans ha
  obtain ⟨t, ht, htkind, htb⟩ := exists_scalar_of_mem_keySpans hb
  rcases happart s hs t ht hskind htkind with heq | hdisjoint
  · rw [heq, htb] at hsa
    injection hsa with hsa
    exact Or.inl hsa.symm
  · rw [← KeySpan.outer_of_ofSpan? hsa, ← KeySpan.outer_of_ofSpan? htb, Span.apart_iff] at hdisjoint
    omega

end Tree

end ApiLint
