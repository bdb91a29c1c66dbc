import Mathlib.Data.List.Forall2
import ApiLint.Proofs.Outline
import ApiLint.Proofs.Path.Numeral
import ApiLint.Proofs.Text.Bytes
import ApiLint.Proofs.Tree.Preorder

/-!
# What the drawing of a concrete tree shows

A concrete tree is drawn with one line for each node, in preorder (`lines_draw_outline`). A line
names the kind and the place of its node. On request it quotes the node's text, all of it or its
first forty characters and dots, and it ends with a flag if and only if the bytes of the node are
marked: without the flag it ends with a bracket or a quote, so the flag cannot be mistaken.

Whether there is more text than is quoted is decided by bytes. As the text that is quoted is a front
of the whole, it has fewer bytes exactly if it has fewer characters. Line breaks in the text are
escaped, so the line of a node can only be broken by its kind.
-/

namespace ApiLint.Tree

mutual

/-- The nodes of a tree that is reached by a trail, each before those below it. -/
def placed (trail : List Bool) : Tree → List (Placed Tree)
  | .node label children => ⟨trail, .node label children⟩ :: placedAll trail children

/-- The nodes of the trees below one that is reached by a trail. -/
def placedAll (trail : List Bool) : List Tree → List (Placed Tree)
  | [] => []
  | tree :: rest => placed (trail ++ [rest.isEmpty]) tree ++ placedAll trail rest

end

mutual

theorem map_item_placed : ∀ (trail : List Bool) (tree : Tree),
    (placed trail tree).map Placed.item = tree.preorder
  | trail, .node label children => by
      rw [placed, preorder, List.map_cons, map_item_placedAll trail children]

theorem map_item_placedAll : ∀ (trail : List Bool) (trees : List Tree),
    (placedAll trail trees).map Placed.item = preorderAll trees
  | trail, [] => by rw [placedAll, preorderAll, List.map_nil]
  | trail, tree :: rest => by
      rw [placedAll, preorderAll, List.map_append, map_item_placed _ tree,
        map_item_placedAll trail rest]

end

section

variable (text : Text) (style : OutlineStyle)

theorem isEmpty_outlineAll (trees : List Tree) :
    (outlineAll text style trees).isEmpty = trees.isEmpty := by
  cases trees <;> rfl

mutual

/-- Outlining keeps every node where it is. -/
theorem items_outline : ∀ (trail : List Bool) (tree : Tree), (outline text style tree).items trail =
    (placed trail tree).map (Placed.map fun node => describe text style node.label)
  | trail, .node label children => by
      rw [outline, Outline.items, itemsAll_outlineAll trail children, placed, List.map_cons]
      rfl

theorem itemsAll_outlineAll : ∀ (trail : List Bool) (trees : List Tree),
    Outline.itemsAll trail (outlineAll text style trees) =
      (placedAll trail trees).map (Placed.map fun node => describe text style node.label)
  | trail, [] => by rw [outlineAll, Outline.itemsAll, placedAll, List.map_nil]
  | trail, tree :: rest => by
      rw [outlineAll, Outline.itemsAll, isEmpty_outlineAll, items_outline _ tree,
        itemsAll_outlineAll trail rest, placedAll, List.map_append]

end

/-! ## The line of a node -/

/-- The text of a node; none if its ends do not lie between characters. -/
def textOf (node : Tree) : Text := (ByteSpan.cut? node.span text).getD []

/-- A text without its line breaks. -/
def escapeBreaks (text : Text) : Text :=
  text.flatMap fun c => if c = '\n' then ['\\', 'n'] else [c]

/-- A short text as it is, a longer one cut off after forty characters. -/
def excerpt (text : Text) : Text :=
  if text.length ≤ 40 then text else text.take 40 ++ "...".toList

/-- Kind and place of a node. -/
def heading (node : Tree) : Text :=
  '(' :: node.kind.toList ++ ' ' :: (place text node.span.start).toList ++ "..".toList ++
    (place text node.span.stop).toList ++ [')']

/-- The quoted text of a node, if texts are shown. -/
def quotation (node : Tree) : Text :=
  if style.showText then " \"".toList ++ escapeBreaks (excerpt (textOf text node)) ++ ['"'] else []

/-- The flag of a node whose bytes are marked. -/
def flag (node : Tree) : Text := if node.span ∈ style.marked then " <-- key".toList else []

theorem newline_not_mem_escapeBreaks : '\n' ∉ escapeBreaks text := by
  rw [escapeBreaks, List.mem_flatMap]
  rintro ⟨c, _, hmem⟩
  split at hmem
  · exact absurd hmem (by decide)
  · next hc => exact hc (List.mem_singleton.mp hmem).symm

theorem newline_not_mem_place (offset : Nat) : '\n' ∉ (place text offset).toList := by
  have hdigits : ∀ n, '\n' ∉ (toString n).toList := fun n => by
    rw [Nat.toString_eq_repr, Nat.toList_repr]
    exact Numeral.not_mem_toDigits rfl n
  rw [place]
  simp only [String.toList_append, List.mem_append, not_or]
  exact ⟨⟨hdigits _, by decide⟩, hdigits _⟩

theorem toList_preview (piece : Text) :
    (preview piece).toList = " \"".toList ++ escapeBreaks (excerpt piece) ++ ['"'] := by
  have hshown : piece.take previewLength ++ (if Text.byteLength (piece.take previewLength) <
      Text.byteLength piece then "...".toList else []) = excerpt piece := by
    rw [excerpt, previewLength]
    by_cases hshort : piece.length ≤ 40
    · rw [if_pos hshort, List.take_of_length_le hshort, if_neg (Nat.lt_irrefl _), List.append_nil]
    · have hlt := Text.byteLength_take_lt (Nat.not_le.mp hshort) (Nat.not_le.mp hshort)
      rw [List.take_length] at hlt
      rw [if_neg hshort, if_pos hlt]
  rw [preview, hshown, String.toList_ofList]
  rfl

theorem toList_describe (node : Tree) :
    (describe text style node.label).toList =
      heading text node ++ quotation text style node ++ flag style node := by
  have hquotation : (if style.showText then
      preview ((ByteSpan.cut? node.span text).getD []) else "").toList =
        quotation text style node := by
    rw [quotation, apply_ite String.toList, toList_preview]
    rfl
  have hflag : (if style.marked.contains node.span then " <-- key" else "").toList =
      flag style node := by
    rw [flag, apply_ite String.toList]
    simp only [List.contains_iff_mem]
    rfl
  have hheading : s!"({node.kind} {place text node.span.start}..{place text node.span.stop})".toList
      = heading text node := by
    simp only [String.toList_append, heading, List.append_assoc]
    rfl
  rw [← hheading, ← hquotation, ← hflag, ← String.toList_append, ← String.toList_append]
  rfl

theorem newline_not_mem_line {node : Tree} (h : '\n' ∉ node.kind.toList) :
    '\n' ∉ (describe text style node.label).toList := by
  have hheading : '\n' ∉ heading text node := by
    simp [heading, h, newline_not_mem_place]
  have hquotation : '\n' ∉ quotation text style node := by
    rw [quotation]
    split
    · simp [newline_not_mem_escapeBreaks]
    · exact List.not_mem_nil
  have hflag : '\n' ∉ flag style node := by
    rw [flag]
    split
    · decide
    · exact List.not_mem_nil
  rw [toList_describe]
  simp only [List.mem_append, not_or]
  exact ⟨⟨hheading, hquotation⟩, hflag⟩

theorem getLast?_quotation (node : Tree) :
    (heading text node ++ quotation text style node).getLast? =
      some (if style.showText then '"' else ')') := by
  rw [quotation]
  split
  · rw [← List.append_assoc, List.getLast?_concat]
  · rw [List.append_nil, heading, List.getLast?_concat]

/-- Nothing but the flag ends a line as the flag does. -/
theorem flag_suffix_iff (strokes : Text) (node : Tree) :
    " <-- key".toList <:+ strokes ++ (heading text node ++ quotation text style node ++
      flag style node) ↔ node.span ∈ style.marked := by
  rw [flag]
  by_cases hmarked : node.span ∈ style.marked
  · rw [if_pos hmarked, ← List.append_assoc]
    exact iff_of_true (List.suffix_append _ _) hmarked
  · refine iff_of_false (fun hsuffix => ?_) hmarked
    rw [if_neg hmarked, List.append_nil] at hsuffix
    obtain ⟨front, hfront⟩ := hsuffix
    have hlast := congrArg List.getLast? hfront
    have hflag : " <-- key".toList.getLast? = some 'y' := by decide
    rw [List.getLast?_append, List.getLast?_append, getLast?_quotation, hflag, Option.some_or,
      Option.some_or, Option.some.injEq] at hlast
    split at hlast
    · exact absurd hlast (by decide)
    · exact absurd hlast (by decide)

/-- A concrete tree is drawn node by node, each on one line and before the nodes below it, whatever
line breaks its text has. The line of a node stands three characters further in for each level above
it, and it ends with the flag if and only if the bytes of the node are marked. -/
theorem lines_draw_outline {tree : Tree} (h : ∀ node ∈ tree.preorder, '\n' ∉ node.kind.toList) :
    ∃ lines, Text.lines (outline text style tree).draw.toList = lines ++ [[]] ∧
      lines.length = tree.size ∧ (placed [] tree).map Placed.item = tree.preorder ∧
      lines = (placed [] tree).map (fun entry =>
        (Outline.strokes entry.trail).toList ++ (heading text entry.item ++
          quotation text style entry.item ++ flag style entry.item)) ∧
      (∀ entry ∈ placed [] tree, (Outline.strokes entry.trail).length = 3 * entry.depth) ∧
      List.Forall₂ (fun node line => " <-- key".toList <:+ line ↔ node.span ∈ style.marked)
        tree.preorder lines := by
  have hplaced := map_item_placed [] tree
  have hitems : ∀ entry ∈ (outline text style tree).items [], '\n' ∉ entry.item.toList := by
    rw [items_outline, List.forall_mem_map]
    intro node hmem
    exact newline_not_mem_line text style (h node.item (hplaced ▸ List.mem_map_of_mem hmem))
  have hlines := Outline.lines_draw hitems
  rw [items_outline, List.map_map] at hlines
  have hline : ∀ entry : Placed Tree,
      (Outline.lineOf (entry.map fun node => describe text style node.label)).toList =
        (Outline.strokes entry.trail).toList ++ (heading text entry.item ++
          quotation text style entry.item ++ flag style entry.item) := by
    intro entry
    rw [Outline.toList_lineOf_map, toList_describe]
  refine ⟨_, hlines, ?_, hplaced, List.map_congr_left fun entry _ => hline entry,
    fun entry _ => Outline.length_strokes entry.trail, ?_⟩
  · rw [List.length_map, ← length_preorder, ← hplaced, List.length_map]
  · rw [← hplaced, List.forall₂_map_left_iff, List.forall₂_map_right_iff, List.forall₂_same]
    intro entry _
    rw [Function.comp_apply, hline]
    exact flag_suffix_iff text style _ entry.item

end

/-- Two nodes over one piece of text, which has a line break and is one character too long to be
quoted, and a shorter one. -/
theorem lines_draw_outline_of_wrapper :
    let text : Text := 'é' :: '\n' :: List.replicate 39 'é'
    let whole : ByteSpan := ⟨0, 81⟩
    let tree : Tree := .node ⟨"pair", true, none, whole⟩
      [.node ⟨"scalar", true, none, whole⟩ [], .node ⟨":", false, none, ⟨0, 2⟩⟩ []]
    (∀ node ∈ tree.preorder, '\n' ∉ node.kind.toList) ∧
      ∃ lines, Text.lines (outline text ⟨true, [whole]⟩ tree).draw.toList = lines ++ [[]] ∧
        lines.length = 3 ∧
        lines[1]? = some ("├─ (scalar 0:0..1:78) \"é\\n".toList ++ List.replicate 38 'é' ++
          "...\" <-- key".toList) ∧
        lines[2]? = some "└─ (: 0:0..0:2) \"é\"".toList := by
  intro text whole tree
  have h : ∀ node ∈ tree.preorder, '\n' ∉ node.kind.toList := by decide
  obtain ⟨lines, hdraw, hlength, _, hlines, _⟩ := lines_draw_outline text ⟨true, [whole]⟩ h
  refine ⟨h, lines, hdraw, hlength, ?_, ?_⟩
  · rw [hlines]
    decide +kernel
  · rw [hlines]
    decide +kernel

end ApiLint.Tree
