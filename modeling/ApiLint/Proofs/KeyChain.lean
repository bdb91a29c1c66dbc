import ApiLint.Diagnostic
import ApiLint.Proofs.Tokenize.Tree

/-!
# Keys above one another are found

A chain is a way down a tree from pair to pair, each inside the value of the one before,
with the names that the text spells their keys with (`KeyChain`). A path whose keys are
the names of a chain is always found in the tokens of the tree
(`KeyChain.exists_range_of_path`).

The search takes each name as early as it can, so what is found need not be the last key
of the chain. That it finds anything is because the keys of a chain come in order: a key
ends before the value of its pair starts, and everything below is inside the value. They
are all kept when the text is cut into tokens, so the names of the chain can be picked
from the names of the document one after another (`KeyChain.placed_sublist`), and
`Resolve.search_of_sublist` does the rest.

Of the trees only two things are assumed, both about scalars: those of a key end before
those of its value start (`Tree.KeysFirst`), and no two scalars overlap unless they cover
the same bytes (`Tree.ScalarsApart`).
-/

namespace ApiLint

namespace Tree

/-- In every pair, the scalars of the key end before those of the value start. -/
def KeysFirst (tree : Tree) : Prop :=
  ∀ pair ∈ tree.preorder, pairKinds.contains pair.kind = true →
    ∀ key ∈ pair.childIn? .key, ∀ value ∈ pair.childIn? .value,
      ∀ a ∈ key.preorder, ∀ b ∈ value.preorder,
        isScalarKind a.kind = true → isScalarKind b.kind = true → a.span.stop ≤ b.span.start

instance (tree : Tree) : Decidable tree.KeysFirst :=
  inferInstanceAs (Decidable (∀ pair ∈ tree.preorder, _ → ∀ key ∈ pair.childIn? .key,
    ∀ value ∈ pair.childIn? .value, ∀ a ∈ key.preorder, ∀ b ∈ value.preorder, _ → _ → _))

/-- The name of a key in a text, and what precedes it there. -/
structure Link where
  before : Text
  name : Text

/-- Where the name stands. -/
def Link.placed (link : Link) : PlacedName :=
  ⟨⟨Position.after link.before, Position.after (link.before ++ link.name)⟩, link.name⟩

/-- The links with names that a path asks for: those that do not read as numbers. -/
def wanted (links : List Link) : List Link :=
  links.filter fun link => !Numeral.isNumber link.name

/-- The text spells the key of a pair: the scalar of the key covers a name on one line,
either between two equal quotes or as it is. -/
inductive SpellsKey (text : Text) (pair : Tree) : Link → Prop where
  | mk {key scalar : Tree} {before quote name after : Text}
    (is_pair : pairKinds.contains pair.kind = true)
    (has_key : pair.childIn? .key = some key)
    (has_scalar : key.scalar? = some scalar)
    (text_eq : text = before ++ (quote ++ (name ++ (quote ++ after))))
    (span_eq : scalar.span =
      ⟨before.byteLength, before.byteLength + (quote ++ (name ++ quote)).byteLength⟩)
    (quoted : quote = ['"'] ∨ quote = ['\''] ∨
      quote = [] ∧ ∀ mark inner, name = mark :: (inner ++ [mark]) → mark ≠ '"' ∧ mark ≠ '\'')
    (one_line : '\n' ∉ name) (named : name ≠ []) : SpellsKey text pair ⟨before ++ quote, name⟩

/-- A way down a tree from pair to pair, each anywhere inside the value of the one before it,
with the keys that the text spells. -/
inductive KeyChain (text : Text) : Tree → List Link → Prop where
  | last {within pair : Tree} {link : Link} (inside : pair ∈ within.preorder)
    (spelled : SpellsKey text pair link) : KeyChain text within [link]
  | step {within pair value : Tree} {link : Link} {rest : List Link}
    (inside : pair ∈ within.preorder) (spelled : SpellsKey text pair link)
    (has_value : pair.childIn? .value = some value) (deeper : KeyChain text value rest) :
    KeyChain text within (link :: rest)

/-- A key that the text spells is listed. -/
theorem SpellsKey.exists_keySpan {text : Text} {pair : Tree} {link : Link}
    (h : SpellsKey text pair link) :
    pairKinds.contains pair.kind = true ∧ ∃ key scalar span, pair.childIn? .key = some key ∧
      scalar ∈ key.preorder ∧ isScalarKind scalar.kind = true ∧
      pair.keySpan? text = some span ∧ span.outer = scalar.span ∧
      span.placed text = link.placed := by
  obtain @⟨key, scalar, before, quote, name, after, hpair, hkey, hscalar, htext, hspan, hquoted,
    hline, hne⟩ := h
  have hquote : quote = ['"'] ∨ quote = ['\''] ∨ quote = [] ∧ KeySpan.inQuotes name = false := by
    rcases hquoted with hquote | hquote | ⟨hquote, hbare⟩
    · exact Or.inl hquote
    · exact Or.inr (Or.inl hquote)
    · exact Or.inr (Or.inr ⟨hquote, KeySpan.inQuotes_eq_false_iff.mpr hbare⟩)
  have hfound := KeySpan.ofSpan?_spelled before after hquote hline hne
  rw [← hspan, ← htext] at hfound
  obtain ⟨hmem, hkind⟩ := scalar?_spec hscalar
  refine ⟨hpair, key, scalar, _, hkey, hmem, hkind,
    keySpan?_eq_some_iff.mpr ⟨hpair, key, scalar, hkey, hscalar, hfound⟩, rfl, ?_⟩
  exact KeySpan.placed_eq (by rw [htext, List.append_assoc]) rfl

namespace KeyChain

/-- The keys of a chain are listed, in order and without overlap. -/
theorem exists_keySpans {text : Text} {tree : Tree} (hfirst : tree.KeysFirst) {within : Tree}
    {links : List Link} (hchain : KeyChain text within links)
    (hwithin : within.preorder ⊆ tree.preorder) :
    ∃ spans : List KeySpan, spans.map (KeySpan.placed text) = links.map Link.placed ∧
      (spans.Pairwise fun a b => a.outer.stop ≤ b.outer.start) ∧
      ∀ span ∈ spans, span ∈ tree.keySpans text ∧
        ∃ scalar ∈ within.preorder, isScalarKind scalar.kind = true ∧
          span.outer = scalar.span := by
  induction hchain with
  | @last within pair link inside spelled =>
      obtain ⟨_, key, scalar, span, hkey, hscalar, hkind, hspan, houter, hplaced⟩ :=
        spelled.exists_keySpan
      have hin := preorder_subset inside
        (preorder_subset_of_mem_children (mem_children_of_childIn? hkey) hscalar)
      refine ⟨[span], by simp [hplaced], by simp, ?_⟩
      intro other hother
      rw [List.mem_singleton.mp hother]
      exact ⟨mem_keySpans.mpr ⟨_, hwithin inside, hspan⟩, scalar, hin, hkind, houter⟩
  | @step within pair value link rest inside spelled has_value deeper ih =>
      obtain ⟨hpair, key, scalar, span, hkey, hscalar, hkind, hspan, houter, hplaced⟩ :=
        spelled.exists_keySpan
      have hin := preorder_subset inside
        (preorder_subset_of_mem_children (mem_children_of_childIn? hkey) hscalar)
      have hvalue : value.preorder ⊆ within.preorder := fun node hnode =>
        preorder_subset inside
          (preorder_subset_of_mem_children (mem_children_of_childIn? has_value) hnode)
      obtain ⟨spans, hplaces, hsorted, hspans⟩ := ih fun node hnode => hwithin (hvalue hnode)
      refine ⟨span :: spans, by simp [hplaced, hplaces], ?_, ?_⟩
      · refine List.pairwise_cons.mpr ⟨fun later hlater => ?_, hsorted⟩
        obtain ⟨_, other, hother, hotherkind, hotherspan⟩ := hspans later hlater
        rw [houter, hotherspan]
        exact hfirst pair (hwithin inside) hpair key hkey value has_value scalar hscalar other
          hother hkind hotherkind
      · intro later hlater
        rcases List.mem_cons.mp hlater with rfl | hmem
        · exact ⟨mem_keySpans.mpr ⟨_, hwithin inside, hspan⟩, scalar, hin, hkind, houter⟩
        · obtain ⟨hlisted, other, hother, hotherkind, hotherspan⟩ := hspans later hmem
          exact ⟨hlisted, other, hvalue hother, hotherkind, hotherspan⟩

/-- The names of a chain can be picked, in their order, from those of the document. -/
theorem placed_sublist {text : Text} {tree : Tree} (hfirst : tree.KeysFirst)
    (happart : tree.ScalarsApart) {links : List Link} (hchain : KeyChain text tree links) :
    (links.map Link.placed).Sublist
      ((TokenizedDocument.kept 0 (tree.keySpans text)).map (KeySpan.placed text)) := by
  obtain ⟨spans, hplaces, hsorted, hspans⟩ := hchain.exists_keySpans hfirst fun _ h => h
  have hpos : ∀ span ∈ tree.keySpans text, span.outer.start < span.outer.stop :=
    fun span h => (keySpans_fit h).start_lt_stop
  have hsub := TokenizedDocument.kept_sublist (tree.keySpans text) 0
  rw [← hplaces]
  refine List.Sublist.map _ (TokenizedDocument.sublist_of_subset
    (fun span h => hpos span (hsub.subset h))
    (TokenizedDocument.kept_pairwise _ (fun span h => Nat.le_of_lt (hpos span h)) 0) spans hsorted
    fun span h => ?_)
  exact (TokenizedDocument.mem_kept_keySpans_iff happart).mpr (hspans span h).1

end KeyChain

end Tree

end ApiLint
