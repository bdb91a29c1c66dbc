import ApiLint.Proofs.Tree.Preorder

/-!
# Addresses in a tree

Two nodes of a tree may be alike in every respect, so what tells them apart is where they
stand. An address is the number of a node among its siblings, then that of the node above it,
and so on up to the root. Read from the root, addresses are ordered like the words of a
dictionary: a node comes before the nodes below it, and these come before its later siblings.

`addresses` lists the addresses of a tree by the recursion that makes the preorder. The list
ascends (`addresses_ascending`), it has an address exactly if there is a node (`mem_addresses`),
and the nodes at the listed addresses are the preorder (`map_at?_addresses`).

A traversal that has done with a node and all below it has the later siblings of that node before
it, and those of every node above. These are `addressesAfter`; the lemmas at the end say how they
are shared out by going to a child, to a sibling or to the parent.
-/

namespace ApiLint.Tree

/-- The number of a node among its siblings, then that of the node above it, and so on up to
the root. -/
abbrev Address := List Nat

def at? (tree : Tree) : Address → Option Tree
  | [] => some tree
  | index :: up => (tree.at? up).bind fun parent => parent.children[index]?

/-- Read from the root, the one comes before the other in a dictionary. -/
def Address.Before (a b : Address) : Prop := a.reverse < b.reverse

mutual

/-- The address of a node that stands at `here`, and those of the nodes below it, in preorder. -/
def addressesFrom (here : Address) : Tree → List Address
  | .node _ children => here :: addressesBelow here 0 children

/-- The addresses in several trees below the node at `up`, the first of them the child with
number `index`. -/
def addressesBelow (up : Address) (index : Nat) : List Tree → List Address
  | [] => []
  | tree :: rest => addressesFrom (index :: up) tree ++ addressesBelow up (index + 1) rest

end

def addresses (tree : Tree) : List Address := addressesFrom [] tree

/-! ## The order of addresses -/

theorem Address.before_below (below here : Address) (index : Nat) :
    Before here (below ++ index :: here) := by
  have h : here.reverse ++ [] < here.reverse ++ index :: below.reverse :=
    List.append_left_lt (List.nil_lt_cons index below.reverse)
  simpa [Before] using h

theorem Address.before_of_lt (below later up : Address) {index number : Nat}
    (h : index < number) : Before (below ++ index :: up) (later ++ number :: up) := by
  have h : up.reverse ++ index :: below.reverse < up.reverse ++ number :: later.reverse :=
    List.append_left_lt (List.cons_lt_cons_iff.mpr (Or.inl h))
  simpa [Before] using h

theorem Address.Before.ne {a b : Address} (h : Before a b) : a ≠ b := by
  rintro rfl
  exact List.lt_irrefl _ h

/-! ## The addresses of a tree -/

/-- An address below another one leads on from there. -/
theorem at?_append (tree : Tree) (below here : Address) :
    tree.at? (below ++ here) = (tree.at? here).bind fun node => node.at? below := by
  induction below with
  | nil =>
      rw [List.nil_append]
      cases tree.at? here with
      | none => rfl
      | some node => rfl
  | cons index below ih =>
      rw [List.cons_append, at?, ih, Option.bind_assoc]
      rfl

theorem at?_append_singleton (label : Label) (children : List Tree) (below : Address)
    (index : Nat) : (node label children).at? (below ++ [index]) =
      children[index]?.bind fun child => child.at? below :=
  at?_append (.node label children) below [index]

mutual

theorem mem_addressesFrom {address here : Address} : ∀ {tree : Tree},
    address ∈ addressesFrom here tree ↔
      ∃ below, address = below ++ here ∧ (tree.at? below).isSome
  | .node label children => by
      rw [addressesFrom, List.mem_cons, mem_addressesBelow]
      constructor
      · rintro (rfl | ⟨number, below, child, hchild, rfl, hbelow⟩)
        · exact ⟨[], rfl, rfl⟩
        · refine ⟨below ++ [number], by simp, ?_⟩
          rw [at?_append_singleton, hchild]
          exact hbelow
      · rintro ⟨below, rfl, hbelow⟩
        rcases List.eq_nil_or_concat below with rfl | ⟨below, number, rfl⟩
        · exact Or.inl rfl
        · rw [List.concat_eq_append, at?_append_singleton] at hbelow
          obtain ⟨found, hfound⟩ := Option.isSome_iff_exists.mp hbelow
          obtain ⟨child, hchild, hin⟩ := Option.bind_eq_some_iff.mp hfound
          exact Or.inr
            ⟨number, below, child, hchild, by simp, Option.isSome_iff_exists.mpr ⟨_, hin⟩⟩

theorem mem_addressesBelow {address up : Address} : ∀ {trees : List Tree} {index : Nat},
    address ∈ addressesBelow up index trees ↔
      ∃ number below tree, trees[number]? = some tree ∧
        address = below ++ (index + number) :: up ∧ (tree.at? below).isSome
  | [], index => by simp [addressesBelow]
  | first :: rest, index => by
      rw [addressesBelow, List.mem_append, mem_addressesFrom, mem_addressesBelow]
      constructor
      · rintro (⟨below, rfl, hbelow⟩ | ⟨number, below, tree, htree, rfl, hbelow⟩)
        · exact ⟨0, below, first, rfl, rfl, hbelow⟩
        · exact ⟨number + 1, below, tree, htree, by rw [Nat.add_assoc, Nat.add_comm 1], hbelow⟩
      · rintro ⟨number, below, tree, htree, rfl, hbelow⟩
        cases number with
        | zero =>
            injection htree with htree
            exact Or.inl ⟨below, rfl, htree ▸ hbelow⟩
        | succ number =>
            exact Or.inr ⟨number, below, tree, htree, by rw [Nat.add_assoc, Nat.add_comm 1], hbelow⟩

end

theorem mem_addresses {tree : Tree} {address : Address} :
    address ∈ tree.addresses ↔ (tree.at? address).isSome := by
  rw [addresses, mem_addressesFrom]
  constructor
  · rintro ⟨below, rfl, hbelow⟩
    rwa [List.append_nil]
  · intro h
    exact ⟨address, (List.append_nil _).symm, h⟩

mutual

theorem addressesFrom_ascending (here : Address) : ∀ tree : Tree,
    (addressesFrom here tree).Pairwise Address.Before
  | .node label children => by
      rw [addressesFrom]
      refine List.pairwise_cons.mpr ⟨?_, addressesBelow_ascending here 0 children⟩
      intro address hmem
      obtain ⟨number, below, _, _, rfl, _⟩ := mem_addressesBelow.mp hmem
      exact Address.before_below below here _

theorem addressesBelow_ascending (up : Address) (index : Nat) : ∀ trees : List Tree,
    (addressesBelow up index trees).Pairwise Address.Before
  | [] => by
      rw [addressesBelow]
      exact List.Pairwise.nil
  | first :: rest => by
      rw [addressesBelow]
      refine List.pairwise_append.mpr
        ⟨addressesFrom_ascending _ first, addressesBelow_ascending up (index + 1) rest, ?_⟩
      intro a ha b hb
      obtain ⟨below, rfl, _⟩ := mem_addressesFrom.mp ha
      obtain ⟨number, later, _, _, rfl, _⟩ := mem_addressesBelow.mp hb
      exact Address.before_of_lt below later up (by omega)

end

theorem addresses_ascending (tree : Tree) : tree.addresses.Pairwise Address.Before :=
  addressesFrom_ascending [] tree

theorem at?_of_drop_eq_cons {tree parent child : Tree} {up : Address} {rest : List Tree}
    {index : Nat} (hparent : tree.at? up = some parent)
    (hdrop : parent.children.drop index = child :: rest) :
    tree.at? (index :: up) = some child ∧ parent.children.drop (index + 1) = rest := by
  refine ⟨?_, ?_⟩
  · rw [at?, hparent, Option.bind_some, ← List.head?_drop, hdrop, List.head?_cons]
  · rw [← List.tail_drop, hdrop, List.tail_cons]

mutual

theorem map_at?_addressesFrom {tree : Tree} {here : Address} : ∀ {node : Tree},
    tree.at? here = some node → (addressesFrom here node).map tree.at? = node.preorder.map some
  | .node label children, h => by
      have hbelow : (addressesBelow here 0 children).map tree.at? =
          (preorderAll children).map some := map_at?_addressesBelow h rfl
      rw [addressesFrom, preorder, List.map_cons, List.map_cons, h, hbelow]

theorem map_at?_addressesBelow {tree parent : Tree} {up : Address}
    (hparent : tree.at? up = some parent) : ∀ {trees : List Tree} {index : Nat},
    parent.children.drop index = trees →
      (addressesBelow up index trees).map tree.at? = (preorderAll trees).map some
  | [], index, _ => by rw [addressesBelow, preorderAll, List.map_nil, List.map_nil]
  | first :: rest, index, hdrop => by
      obtain ⟨hfirst, hrest⟩ := at?_of_drop_eq_cons hparent hdrop
      rw [addressesBelow, preorderAll, List.map_append, List.map_append,
        map_at?_addressesFrom hfirst, map_at?_addressesBelow hparent hrest]

end

theorem map_at?_addresses (tree : Tree) : tree.addresses.map tree.at? = tree.preorder.map some :=
  map_at?_addressesFrom rfl

theorem length_addresses (tree : Tree) : tree.addresses.length = tree.size := by
  have h : (tree.addresses.map tree.at?).length = (tree.preorder.map some).length := by
    rw [map_at?_addresses]
  rwa [List.length_map, List.length_map, length_preorder] at h

/-! ## What a traversal has before it -/

/-- The addresses of the children of the node at `up` from number `index` on, and of the nodes
below them. -/
def childAddresses (tree : Tree) (up : Address) (index : Nat) : List Address :=
  match tree.at? up with
  | some parent => addressesBelow up index (parent.children.drop index)
  | none => []

/-- What follows an address and those below it: the later siblings, here and on every level
above. -/
def addressesAfter (tree : Tree) : Address → List Address
  | [] => []
  | index :: up => tree.childAddresses up (index + 1) ++ tree.addressesAfter up

section

variable {tree node : Tree} {here up : Address} {index : Nat}

theorem addressesFrom_eq (h : tree.at? here = some node) :
    addressesFrom here node = here :: tree.childAddresses here 0 := by
  obtain ⟨label, children⟩ := node
  rw [addressesFrom, childAddresses, h]
  rfl

theorem childAddresses_of_some (h : tree.at? (index :: up) = some node) :
    tree.childAddresses up index =
      addressesFrom (index :: up) node ++ tree.childAddresses up (index + 1) := by
  obtain ⟨parent, hparent, hnode⟩ := Option.bind_eq_some_iff.mp h
  have hdrop : parent.children.drop index = node :: parent.children.drop (index + 1) := by
    obtain ⟨hlt, hnode⟩ := List.getElem?_eq_some_iff.mp hnode
    rw [List.drop_eq_getElem_cons hlt, hnode]
  rw [childAddresses, childAddresses, hparent]
  show addressesBelow up index (parent.children.drop index) = _
  rw [hdrop, addressesBelow]

theorem childAddresses_of_none (h : tree.at? (index :: up) = none) :
    tree.childAddresses up index = [] := by
  rw [childAddresses]
  cases hparent : tree.at? up with
  | none => rfl
  | some parent =>
      rw [at?, hparent, Option.bind_some, List.getElem?_eq_none_iff] at h
      show addressesBelow up index (parent.children.drop index) = _
      rw [List.drop_of_length_le h, addressesBelow]

/-- Going to the first child leaves all behind but the node itself. -/
theorem addressesFrom_append_of_child {child : Tree} (hnode : tree.at? here = some node)
    (hchild : tree.at? (0 :: here) = some child) :
    addressesFrom here node ++ tree.addressesAfter here =
      here :: (addressesFrom (0 :: here) child ++ tree.addressesAfter (0 :: here)) := by
  rw [addressesFrom_eq hnode, childAddresses_of_some hchild, addressesAfter, List.cons_append,
    List.append_assoc]

theorem addressesFrom_of_leaf (hnode : tree.at? here = some node)
    (hleaf : tree.at? (0 :: here) = none) : addressesFrom here node = [here] := by
  rw [addressesFrom_eq hnode, childAddresses_of_none hleaf]

/-- What follows a node with a next sibling starts there. -/
theorem addressesAfter_of_sibling (h : tree.at? ((index + 1) :: up) = some node) :
    tree.addressesAfter (index :: up) =
      addressesFrom ((index + 1) :: up) node ++ tree.addressesAfter ((index + 1) :: up) := by
  rw [addressesAfter, childAddresses_of_some h, addressesAfter, List.append_assoc]

/-- What follows the last sibling follows the node above. -/
theorem addressesAfter_of_last (h : tree.at? ((index + 1) :: up) = none) :
    tree.addressesAfter (index :: up) = tree.addressesAfter up := by
  rw [addressesAfter, childAddresses_of_none h, List.nil_append]

end

end ApiLint.Tree
