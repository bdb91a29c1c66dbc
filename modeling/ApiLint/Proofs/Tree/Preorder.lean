import ApiLint.Keys

/-!
# The walk over a tree is its preorder

The cursor that looks for keys knows one step at a time, and what it has still to
visit is spread over the way up to the root. `Cursor.pending` gathers it: the nodes
below the cursor, then the later siblings on every level. One step takes one node off
the front of that list and leaves the rest pending (`Cursor.pending_eq`), so a walk of
`n` steps is the first `n` pending nodes, and a walk from the root with a step for
every node is the whole tree, each node once and before the nodes below it.
-/

namespace ApiLint.Tree

/-! ## Nodes of a tree -/

theorem mem_preorder_self (tree : Tree) : tree ∈ tree.preorder := by
  cases tree with
  | node label children =>
      rw [preorder]
      exact List.mem_cons_self

theorem mem_preorderAll {node : Tree} {trees : List Tree} :
    node ∈ preorderAll trees ↔ ∃ tree ∈ trees, node ∈ tree.preorder := by
  induction trees with
  | nil => simp [preorderAll]
  | cons first rest ih => simp [preorderAll, ih]

theorem preorder_subset_of_mem_children {tree child : Tree} (h : child ∈ tree.children) :
    child.preorder ⊆ tree.preorder := by
  cases tree with
  | node label children =>
      intro node hnode
      rw [preorder]
      exact List.mem_cons_of_mem _ (mem_preorderAll.mpr ⟨child, h, hnode⟩)

mutual

theorem preorder_subset {inner : Tree} : ∀ {outer : Tree},
    inner ∈ outer.preorder → inner.preorder ⊆ outer.preorder
  | .node label children, h => by
      rw [preorder] at h
      rcases List.mem_cons.mp h with heq | hmem
      · rw [heq]
        exact fun _ h => h
      · intro node hnode
        rw [preorder]
        exact List.mem_cons_of_mem _ (preorderAll_subset hmem hnode)

theorem preorderAll_subset {inner : Tree} : ∀ {trees : List Tree},
    inner ∈ preorderAll trees → inner.preorder ⊆ preorderAll trees
  | [], h => by
      rw [preorderAll] at h
      cases h
  | first :: rest, h => by
      rw [preorderAll] at h ⊢
      intro node hnode
      rcases List.mem_append.mp h with hfirst | hrest
      · exact List.mem_append_left _ (preorder_subset hfirst hnode)
      · exact List.mem_append_right _ (preorderAll_subset hrest hnode)

end

mutual

theorem length_preorder : ∀ tree : Tree, tree.preorder.length = tree.size
  | .node label children => by
      rw [preorder, List.length_cons, length_preorderAll, size]

theorem length_preorderAll : ∀ trees : List Tree, (preorderAll trees).length = sizeAll trees
  | [] => by rw [preorderAll, sizeAll, List.length_nil]
  | first :: rest => by
      rw [preorderAll, List.length_append, length_preorder, length_preorderAll, sizeAll]

end

theorem mem_children_of_childIn? {tree child : Tree} {field : Field}
    (h : tree.childIn? field = some child) : child ∈ tree.children :=
  List.mem_of_find?_eq_some h

mutual

/-- The scalar that spells a key is a scalar node of it. -/
theorem scalar?_spec {scalar : Tree} : ∀ {tree : Tree}, scalar? tree = some scalar →
    scalar ∈ tree.preorder ∧ isScalarKind scalar.kind = true
  | .node label children, h => by
      rw [scalar?] at h
      split at h
      · next hkind =>
          injection h with h
          rw [← h]
          exact ⟨mem_preorder_self _, hkind⟩
      · obtain ⟨hmem, hkind⟩ := scalarIn?_spec h
        rw [preorder]
        exact ⟨List.mem_cons_of_mem _ hmem, hkind⟩

theorem scalarIn?_spec {scalar : Tree} : ∀ {trees : List Tree}, scalarIn? trees = some scalar →
    scalar ∈ preorderAll trees ∧ isScalarKind scalar.kind = true
  | [], h => by
      rw [scalarIn?] at h
      cases h
  | first :: rest, h => by
      rw [scalarIn?] at h
      rw [preorderAll]
      split at h
      · next found hfound =>
          injection h with h
          split at hfound
          · obtain ⟨hmem, hkind⟩ := scalar?_spec (h ▸ hfound)
            exact ⟨List.mem_append_left _ hmem, hkind⟩
          · cases hfound
      · obtain ⟨hmem, hkind⟩ := scalarIn?_spec h
        exact ⟨List.mem_append_right _ hmem, hkind⟩

end

/-! ## The walk -/

namespace Cursor

/-- The nodes of the later siblings here and on every level above. -/
def laterNodes : List Tree → List (Tree × List Tree) → List Tree
  | _, [] => []
  | later, (_, outer) :: above => preorderAll later ++ laterNodes outer above

/-- The nodes that a walk from the cursor has still to visit. -/
def pending (cursor : Cursor) : List Tree :=
  cursor.node.preorder ++ laterNodes cursor.later cursor.above

/-- The nodes from a cursor on, if there is one. -/
def pendingFrom : Option Cursor → List Tree
  | some cursor => cursor.pending
  | none => []

/-- Leaving the nodes below the cursor leads to the first of the later nodes. The way up
is no longer than the cursor is deep. -/
theorem pendingFrom_advance? (above : List (Tree × List Tree)) :
    ∀ node later climbs, above.length < climbs →
      pendingFrom (advance? ⟨node, later, above⟩ climbs) = laterNodes later above := by
  induction above with
  | nil =>
      intro node later climbs hclimbs
      obtain ⟨n, rfl⟩ : ∃ n, climbs = n + 1 := ⟨climbs - 1, by omega⟩
      rw [advance?, laterNodes]
      rfl
  | cons parent above ih =>
      intro node later climbs hclimbs
      obtain ⟨n, rfl⟩ : ∃ n, climbs = n + 1 := ⟨climbs - 1, by omega⟩
      obtain ⟨up, outer⟩ := parent
      rw [advance?, laterNodes]
      cases later with
      | nil =>
          rw [preorderAll, List.nil_append]
          exact ih up outer n (by rw [List.length_cons] at hclimbs; omega)
      | cons sibling rest =>
          rw [preorderAll, List.append_assoc]
          rfl

/-- One step visits one node. -/
theorem pending_eq (cursor : Cursor) :
    cursor.pending = cursor.node :: pendingFrom cursor.next? := by
  obtain ⟨⟨label, children⟩, later, above⟩ := cursor
  rw [pending, preorder, List.cons_append, next?]
  cases children with
  | nil =>
      rw [preorderAll, List.nil_append]
      congr 1
      exact (pendingFrom_advance? above _ later _ (Nat.lt_succ_self _)).symm
  | cons child rest =>
      rw [preorderAll, List.append_assoc]
      rfl

theorem walk_eq_take (steps : Nat) :
    ∀ cursor : Cursor, cursor.walk steps = cursor.pending.take steps := by
  induction steps with
  | zero =>
      intro cursor
      rw [walk, List.take_zero]
  | succ steps ih =>
      intro cursor
      rw [walk, pending_eq, List.take_succ_cons]
      cases cursor.next? with
      | none => rw [pendingFrom, List.take_nil]
      | some next => rw [pendingFrom, ← ih next]

/-- A larger bound on the steps of a walk from the root changes nothing. -/
theorem walk_of_size_le {tree : Tree} {steps : Nat} (h : tree.size ≤ steps) :
    (atRoot tree).walk steps = tree.preorder := by
  have hpending : (atRoot tree).pending = tree.preorder := List.append_nil _
  rw [walk_eq_take, hpending, List.take_of_length_le (by rwa [length_preorder])]

end Cursor

/-- The walk from the root visits every node once, each before the nodes below it. -/
theorem visited_eq_preorder (tree : Tree) : tree.visited = tree.preorder :=
  Cursor.walk_of_size_le (Nat.le_refl _)

end ApiLint.Tree
