import Mathlib.Data.List.Forall2
import ApiLint.Proofs.Keys
import ApiLint.Proofs.Tree.Address

/-!
# The search for keys ends

The search is two loops, one inside the other. The outer one looks at a node and goes to its
first child. Where there is none, the inner one goes to the next sibling, or else to the parent
and tries again there; the search is over when that cannot be done either. Nothing is counted on
the way. `Search` says where the loops stand and `Search.turn` makes one turn of either, and all
that is asked of the cursor is that it moves as in a tree and cannot leave the root
(`Moves.Faithful`).

Every node is entered by one turn of the outer loop and left by one turn of the inner one, and
that is what makes the loops end. `Ahead` lists the addresses that a search has still to enter.
Each of them has to be left as well, and so have the nodes that the cursor is in: one for every
level above it, and its own if that was entered. Twice the addresses and this number are the turns
still to take. Every turn takes one off them, and a turn of the outer loop takes the first address
off the list (`Ahead.turn`). So a search takes two turns for each node of the tree
(`Ahead.done_after_iff`) and enters the addresses one after the other (`Ahead.visits`).

The walk that lists the keys of a document has a bound on its steps instead. It visits the same
nodes, and a larger bound changes nothing (`Cursor.walk_of_size_le`).
-/

namespace ApiLint.Tree

variable {σ : Type}

/-! ## Cursors -/

/-- What can be asked of a cursor: its node, and the cursor after a move, if that can be made. -/
structure Moves (σ : Type) where
  node : σ → Tree
  firstChild? : σ → Option σ
  nextSibling? : σ → Option σ
  parent? : σ → Option σ

/-- A move to an address is made exactly if there is a node, and leads there. -/
def LeadsTo (tree : Tree) (StandsAt : σ → Address → Prop) (address : Address) :
    Option σ → Prop
  | some moved => StandsAt moved address
  | none => tree.at? address = none

/-- The cursor goes about a tree: wherever it stands, it shows the node there, and its moves lead
to the first child, the next sibling and the parent. It does not leave the root. -/
structure Moves.Faithful (moves : Moves σ) (tree : Tree) (StandsAt : σ → Address → Prop) :
    Prop where
  node_eq : ∀ {cursor address}, StandsAt cursor address →
    tree.at? address = some (moves.node cursor)
  firstChild : ∀ {cursor address}, StandsAt cursor address →
    LeadsTo tree StandsAt (0 :: address) (moves.firstChild? cursor)
  nextSibling : ∀ {cursor index up}, StandsAt cursor (index :: up) →
    LeadsTo tree StandsAt ((index + 1) :: up) (moves.nextSibling? cursor)
  parent : ∀ {cursor index up}, StandsAt cursor (index :: up) →
    LeadsTo tree StandsAt up (moves.parent? cursor)
  root : ∀ {cursor}, StandsAt cursor [] →
    moves.nextSibling? cursor = none ∧ moves.parent? cursor = none

section

variable {moves : Moves σ} {tree : Tree} {StandsAt : σ → Address → Prop} {cursor : σ}
  {address : Address}

theorem Moves.Faithful.firstChild_cases (hmoves : moves.Faithful tree StandsAt)
    (h : StandsAt cursor address) :
    (∃ child, moves.firstChild? cursor = some child ∧ StandsAt child (0 :: address)) ∨
      moves.firstChild? cursor = none ∧ tree.at? (0 :: address) = none := by
  have hchild := hmoves.firstChild h
  cases hmove : moves.firstChild? cursor with
  | some child =>
      rw [hmove] at hchild
      exact Or.inl ⟨child, rfl, hchild⟩
  | none =>
      rw [hmove] at hchild
      exact Or.inr ⟨rfl, hchild⟩

/-- There are three ways to go on from a node that is done with: to the next sibling, from the
last sibling to the parent, and from the root nowhere. -/
theorem Moves.Faithful.onward_cases (hmoves : moves.Faithful tree StandsAt)
    (h : StandsAt cursor address) :
    (∃ index up sibling, address = index :: up ∧ moves.nextSibling? cursor = some sibling ∧
        StandsAt sibling ((index + 1) :: up)) ∨
      (∃ index up parent, address = index :: up ∧ moves.nextSibling? cursor = none ∧
        tree.at? ((index + 1) :: up) = none ∧ moves.parent? cursor = some parent ∧
        StandsAt parent up) ∨
      address = [] ∧ moves.nextSibling? cursor = none ∧ moves.parent? cursor = none := by
  cases address with
  | nil => exact Or.inr (Or.inr ⟨rfl, hmoves.root h⟩)
  | cons index up =>
      have hsibling := hmoves.nextSibling h
      have hparent := hmoves.parent h
      cases hmove : moves.nextSibling? cursor with
      | some sibling =>
          rw [hmove] at hsibling
          exact Or.inl ⟨index, up, sibling, rfl, rfl, hsibling⟩
      | none =>
          rw [hmove] at hsibling
          cases hclimb : moves.parent? cursor with
          | some parent =>
              rw [hclimb] at hparent
              exact Or.inr (Or.inl ⟨index, up, parent, rfl, rfl, hsibling, rfl, hparent⟩)
          | none =>
              -- A node that is not the root has one above it.
              rw [hclimb] at hparent
              have hup : tree.at? up = none := hparent
              have hnode := hmoves.node_eq h
              rw [at?, hup] at hnode
              cases hnode

end

namespace Cursor

def moves : Moves Cursor := ⟨node, firstChild?, nextSibling?, parent?⟩

/-- The cursor has come from the root to an address. -/
inductive StandsAt (tree : Tree) : Cursor → Address → Prop
  | root : StandsAt tree (atRoot tree) []
  | child {up node : Tree} {outer later : List Tree} {above : List (Tree × List Tree)}
      {address : Address} (before : List Tree) (hup : StandsAt tree ⟨up, outer, above⟩ address)
      (hchildren : up.children = before ++ node :: later) :
      StandsAt tree ⟨node, later, (up, outer) :: above⟩ (before.length :: address)

theorem StandsAt.node_eq {tree : Tree} {cursor : Cursor} {address : Address}
    (h : StandsAt tree cursor address) : tree.at? address = some cursor.node := by
  induction h with
  | root => rfl
  | child before _ hchildren ih =>
      rw [at?, ih, Option.bind_some, hchildren, List.getElem?_append_right (Nat.le_refl _),
        Nat.sub_self, List.getElem?_cons_zero]

theorem faithful (tree : Tree) : moves.Faithful tree (StandsAt tree) where
  node_eq h := h.node_eq
  firstChild {cursor address} h := by
    obtain ⟨⟨label, children⟩, later, above⟩ := cursor
    cases children with
    | nil =>
        show tree.at? (0 :: address) = none
        rw [at?, h.node_eq]
        rfl
    | cons child rest => exact .child [] h rfl
  nextSibling {cursor index up} h := by
    cases h with
    | @child parent node outer later above _ before hup hchildren =>
        cases later with
        | nil =>
            show tree.at? ((before.length + 1) :: up) = none
            rw [at?, hup.node_eq, Option.bind_some, hchildren, List.getElem?_eq_none_iff]
            simp
        | cons sibling rest =>
            have hsibling := StandsAt.child (before ++ [node]) hup
              (by rw [hchildren, List.append_assoc]; rfl)
            rwa [List.length_append] at hsibling
  parent h := by
    cases h with
    | child _ hup _ => exact hup
  root h := by
    cases h with
    | root => exact ⟨rfl, rfl⟩

end Cursor

/-! ## The loops -/

/-- Where the search for keys stands, with the keys found so far. -/
inductive Search (σ : Type) where
  /-- At the head of the outer loop: the node is next to be looked at. -/
  | enter (cursor : σ) (keys : List KeySpan)
  /-- At the head of the inner loop: nothing is left below the node. -/
  | leave (cursor : σ) (keys : List KeySpan)
  /-- The search is over. -/
  | done (keys : List KeySpan)

namespace Search

/-- The keys found, after a look at one more node. -/
def look (text : Text) (node : Tree) (keys : List KeySpan) : List KeySpan :=
  keys ++ (node.keySpan? text).toList

/-- One turn of the loop at whose head the search stands. -/
def turn (moves : Moves σ) (text : Text) : Search σ → Search σ
  | .enter cursor keys =>
    match moves.firstChild? cursor with
    | some child => .enter child (look text (moves.node cursor) keys)
    | none => .leave cursor (look text (moves.node cursor) keys)
  | .leave cursor keys =>
    match moves.nextSibling? cursor with
    | some sibling => .enter sibling keys
    | none =>
      match moves.parent? cursor with
      | some parent => .leave parent keys
      | none => .done (KeySpan.sortByStart keys)
  | .done keys => .done keys

def after (moves : Moves σ) (text : Text) : Nat → Search σ → Search σ
  | 0, search => search
  | turns + 1, search => after moves text turns (search.turn moves text)

/-- The cursor whose node is looked at in the next turn, if it is a turn of the outer loop. -/
def looking : Search σ → List σ
  | .enter cursor _ => [cursor]
  | .leave _ _ => []
  | .done _ => []

/-- The cursors whose nodes are looked at in a number of turns. -/
def visits (moves : Moves σ) (text : Text) : Nat → Search σ → List σ
  | 0, _ => []
  | turns + 1, search => search.looking ++ visits moves text turns (search.turn moves text)

/-- What the search answers if only these nodes are still to be looked at. -/
def answer (text : Text) : Search σ → List Tree → List KeySpan
  | .enter _ keys, nodes => KeySpan.sortByStart (keys ++ nodes.filterMap (keySpan? text))
  | .leave _ keys, nodes => KeySpan.sortByStart (keys ++ nodes.filterMap (keySpan? text))
  | .done keys, _ => keys

section

variable (moves : Moves σ) (text : Text)

theorem after_done (turns : Nat) (keys : List KeySpan) :
    after moves text turns (.done keys) = .done keys := by
  induction turns with
  | zero => rfl
  | succ turns ih => exact ih

theorem visits_done (turns : Nat) (keys : List KeySpan) :
    visits moves text turns (.done keys) = [] := by
  induction turns with
  | zero => rfl
  | succ turns ih => exact ih

theorem look_append (node : Tree) (keys : List KeySpan) (rest : List Tree) :
    look text node keys ++ rest.filterMap (keySpan? text) =
      keys ++ (node :: rest).filterMap (keySpan? text) := by
  rw [look, List.append_assoc]
  cases hkey : node.keySpan? text with
  | none => rw [List.filterMap_cons_none hkey]; rfl
  | some key => rw [List.filterMap_cons_some hkey]; rfl

/-- The keys that are answered come from the nodes that are looked at. -/
theorem answer_after (turns : Nat) : ∀ search : Search σ,
    (after moves text turns search).answer text [] =
      search.answer text ((visits moves text turns search).map moves.node) := by
  induction turns with
  | zero => exact fun _ => rfl
  | succ turns ih =>
      intro search
      rw [after, ih, visits]
      cases search with
      | enter cursor keys =>
          rw [looking, List.singleton_append, List.map_cons, answer, ← look_append text, turn]
          cases moves.firstChild? cursor with
          | some child => rfl
          | none => rfl
      | leave cursor keys =>
          rw [looking, List.nil_append, turn]
          cases moves.nextSibling? cursor with
          | some sibling => rfl
          | none =>
              cases moves.parent? cursor with
              | some parent => rfl
              | none =>
                  show KeySpan.sortByStart keys = KeySpan.sortByStart (keys ++ _)
                  rw [visits_done, List.map_nil, List.filterMap_nil, List.append_nil]
      | done keys => rfl

end

/-! ## What is ahead of a search -/

/-- The addresses that a search has still to enter, and the turns that it still takes. -/
inductive Ahead (tree : Tree) (StandsAt : σ → Address → Prop) :
    Search σ → List Address → Nat → Prop
  | enter {cursor : σ} {address : Address} {node : Tree} {addresses : List Address} {turns : Nat}
      (keys : List KeySpan) (hstands : StandsAt cursor address)
      (hnode : tree.at? address = some node)
      (haddresses : addresses = addressesFrom address node ++ tree.addressesAfter address)
      (hturns : turns = 2 * addresses.length + address.length) :
      Ahead tree StandsAt (.enter cursor keys) addresses turns
  | leave {cursor : σ} {address : Address} {addresses : List Address} {turns : Nat}
      (keys : List KeySpan) (hstands : StandsAt cursor address)
      (haddresses : addresses = tree.addressesAfter address)
      (hturns : turns = 2 * addresses.length + address.length + 1) :
      Ahead tree StandsAt (.leave cursor keys) addresses turns
  | done (keys : List KeySpan) : Ahead tree StandsAt (.done keys) [] 0

section

variable {moves : Moves σ} {tree : Tree} {StandsAt : σ → Address → Prop} {search : Search σ}
  {addresses : List Address} {turns : Nat}

theorem ahead_start {start : σ} (hstart : StandsAt start []) :
    Ahead tree StandsAt (.enter start []) tree.addresses (2 * tree.size) :=
  .enter [] hstart rfl (List.append_nil _).symm (by rw [length_addresses]; rfl)

theorem Ahead.exists_done_iff (h : Ahead tree StandsAt search addresses turns) :
    (∃ keys, search = .done keys) ↔ turns = 0 := by
  cases h with
  | @enter cursor address node _ _ keys hstands hnode haddresses hturns =>
      have hpos : 0 < addresses.length := by
        rw [haddresses, addressesFrom_eq hnode]
        exact Nat.succ_pos _
      constructor
      · rintro ⟨_, hdone⟩
        cases hdone
      · omega
  | leave keys hstands haddresses hturns =>
      constructor
      · rintro ⟨_, hdone⟩
        cases hdone
      · omega
  | done keys => exact ⟨fun _ => rfl, fun _ => ⟨keys, rfl⟩⟩

/-- A turn of the outer loop enters the first address that is ahead, one of the inner loop enters
none, and after either there is one turn less to take. -/
theorem Ahead.turn (hmoves : moves.Faithful tree StandsAt) (text : Text)
    (h : Ahead tree StandsAt search addresses (turns + 1)) :
    ∃ here rest, addresses = here ++ rest ∧ List.Forall₂ StandsAt search.looking here ∧
      Ahead tree StandsAt (search.turn moves text) rest turns := by
  cases h with
  | @enter cursor address node _ _ keys hstands hnode haddresses hturns =>
      -- The node has been entered and is still to be left, so it counts once from here on.
      rw [Search.turn]
      obtain ⟨child, hmove, hchild⟩ | ⟨hmove, hleaf⟩ := hmoves.firstChild_cases hstands
      · have hnext := hmoves.node_eq hchild
        rw [addressesFrom_append_of_child hnode hnext] at haddresses
        rw [hmove]
        refine ⟨[address], addressesFrom (0 :: address) (moves.node child) ++
          tree.addressesAfter (0 :: address), haddresses, .cons hstands .nil,
          .enter _ hchild hnext rfl ?_⟩
        rw [haddresses, List.length_cons] at hturns
        rw [List.length_cons]
        omega
      · rw [addressesFrom_of_leaf hnode hleaf] at haddresses
        rw [hmove]
        refine ⟨[address], _, haddresses, .cons hstands .nil, .leave _ hstands rfl ?_⟩
        rw [haddresses, List.length_append, List.length_singleton] at hturns
        omega
  | @leave cursor address _ _ keys hstands haddresses hturns =>
      refine ⟨[], addresses, rfl, .nil, ?_⟩
      rw [Search.turn]
      obtain ⟨index, up, sibling, rfl, hmove, hsibling⟩ |
        ⟨index, up, parent, rfl, hmove, hlast, hclimb, hparent⟩ | ⟨rfl, hmove, hclimb⟩ :=
        hmoves.onward_cases hstands
      · have hnext := hmoves.node_eq hsibling
        rw [addressesAfter_of_sibling hnext] at haddresses
        rw [hmove]
        rw [List.length_cons] at hturns
        exact .enter _ hsibling hnext haddresses (by rw [List.length_cons]; omega)
      · rw [addressesAfter_of_last hlast] at haddresses
        rw [hmove, hclimb]
        rw [List.length_cons] at hturns
        exact .leave _ hparent haddresses (by omega)
      · rw [hmove, hclimb]
        obtain rfl : addresses = [] := haddresses
        obtain rfl : turns = 0 := by simpa using hturns
        exact .done _

/-- A search over a tree is over after the turns that it takes, and not before. -/
theorem Ahead.done_after_iff (hmoves : moves.Faithful tree StandsAt) (text : Text)
    (limit : Nat) : ∀ {search : Search σ} {addresses : List Address} {turns : Nat},
      Ahead tree StandsAt search addresses turns →
        ((∃ keys, after moves text limit search = .done keys) ↔ turns ≤ limit) := by
  induction limit with
  | zero =>
      intro search addresses turns h
      rw [after, h.exists_done_iff, Nat.le_zero]
  | succ limit ih =>
      intro search addresses turns h
      cases turns with
      | zero =>
          obtain ⟨keys, rfl⟩ := h.exists_done_iff.mpr rfl
          rw [after_done]
          exact ⟨fun _ => Nat.zero_le _, fun _ => ⟨keys, rfl⟩⟩
      | succ turns =>
          obtain ⟨_, _, _, _, hrest⟩ := h.turn hmoves text
          rw [after, ih hrest, Nat.add_le_add_iff_right]

/-- A search over a tree enters the addresses ahead, one after the other. -/
theorem Ahead.visits (hmoves : moves.Faithful tree StandsAt) (text : Text) : ∀ {turns : Nat}
    {search : Search σ} {addresses : List Address}, Ahead tree StandsAt search addresses turns →
      List.Forall₂ StandsAt (Search.visits moves text turns search) addresses := by
  intro turns
  induction turns with
  | zero =>
      intro search addresses h
      obtain ⟨keys, rfl⟩ := h.exists_done_iff.mpr rfl
      cases h
      exact .nil
  | succ turns ih =>
      intro search addresses h
      obtain ⟨here, rest, rfl, hlooking, hrest⟩ := h.turn hmoves text
      exact List.rel_append hlooking (ih hrest)

/-- The nodes that are looked at one address after the other are the preorder. -/
theorem map_node_of_visits (hmoves : moves.Faithful tree StandsAt) {seen : List σ}
    (h : List.Forall₂ StandsAt seen tree.addresses) :
    seen.map moves.node = tree.preorder := by
  have hnodes : List.Forall₂ (· = ·) ((seen.map moves.node).map some)
      (tree.addresses.map tree.at?) := by
    rw [List.map_map, List.forall₂_map_left_iff, List.forall₂_map_right_iff]
    exact h.imp fun _ _ hstands => (hmoves.node_eq hstands).symm
  rw [List.forall₂_eq_eq_eq, map_at?_addresses] at hnodes
  exact List.map_injective_iff.mpr (fun _ _ => Option.some.inj) hnodes

/-- With any cursor that goes about a tree, the search for keys is over after two turns for each
node and not before. It looks at every node once, in the order of the addresses, which is the
preorder. Its answer is the stable sort of the keys that the nodes contribute in preorder. The
walk with a bound visits the same nodes and lists the same keys. -/
theorem ends_with_all_keys {start : σ} (hmoves : moves.Faithful tree StandsAt)
    (hstart : StandsAt start []) (text : Text) :
    let seen := visits moves text (2 * tree.size) (.enter start [])
    (∀ turns, (∃ keys, after moves text turns (.enter start []) = .done keys) ↔
      2 * tree.size ≤ turns) ∧
    (∃ addresses : List Address, List.Forall₂ StandsAt seen addresses ∧ addresses.Nodup ∧
      addresses.Pairwise Address.Before ∧
      ∀ address, address ∈ addresses ↔ (tree.at? address).isSome) ∧
    seen.map moves.node = tree.preorder ∧
    (∀ steps, tree.size ≤ steps → (Cursor.atRoot tree).walk steps = seen.map moves.node) ∧
    after moves text (2 * tree.size) (.enter start []) = .done (tree.keySpans text) ∧
    ∀ keys, KeySpan.StablySorted (tree.preorder.filterMap (keySpan? text)) keys ↔
      keys = tree.keySpans text := by
  intro seen
  have hahead : Ahead tree StandsAt (.enter start []) tree.addresses (2 * tree.size) :=
    ahead_start hstart
  have hends := fun turns => hahead.done_after_iff hmoves text turns
  have hvisits : List.Forall₂ StandsAt seen tree.addresses := hahead.visits hmoves text
  have hnodes := map_node_of_visits hmoves hvisits
  refine ⟨hends, ⟨tree.addresses, hvisits, ?_, tree.addresses_ascending, fun _ => mem_addresses⟩,
    hnodes, fun steps hsteps => ?_, ?_, fun keys => ?_⟩
  · exact tree.addresses_ascending.imp Address.Before.ne
  · rw [hnodes, Cursor.walk_of_size_le hsteps]
  · obtain ⟨keys, hdone⟩ := (hends _).mpr (Nat.le_refl _)
    have hanswer := answer_after moves text (2 * tree.size) (.enter start [])
    rw [hdone, hnodes] at hanswer
    have hkeys : keys = tree.keySpans text := by
      rw [keySpans_eq]
      exact hanswer
    rw [hdone, hkeys]
  · rw [keySpans_eq]
    exact KeySpan.stablySorted_iff

/-- A tree that has the second line before the first. The search climbs from the pair in the
braces over two levels, and finds the keys in another order than that of the text. -/
theorem ends_with_keys_of_later_line :
    let text : Text := "b: 1\na: \x7bc: 2\x7d\n".toList
    let inner : Tree := .node ⟨"flow_pair", true, none, ⟨9, 13⟩⟩
      [.node ⟨"plain_scalar", true, some .key, ⟨9, 10⟩⟩ [], .mark ":" 10 11,
        .node ⟨"plain_scalar", true, some .value, ⟨12, 13⟩⟩ []]
    let later : Tree := .node ⟨"block_mapping_pair", true, none, ⟨5, 14⟩⟩
      [.node ⟨"plain_scalar", true, some .key, ⟨5, 6⟩⟩ [], .mark ":" 6 7,
        .node ⟨"flow_mapping", true, some .value, ⟨8, 14⟩⟩
          [.mark "\x7b" 8 9, inner, .mark "\x7d" 13 14]]
    let earlier : Tree := .node ⟨"block_mapping_pair", true, none, ⟨0, 4⟩⟩
      [.node ⟨"plain_scalar", true, some .key, ⟨0, 1⟩⟩ [], .mark ":" 1 2,
        .node ⟨"plain_scalar", true, some .value, ⟨3, 4⟩⟩ []]
    let tree : Tree := .named "block_mapping" 0 14 [later, earlier]
    let search : Search Cursor := .enter (.atRoot tree) []
    Cursor.moves.Faithful tree (Cursor.StandsAt tree) ∧
      (∀ keys, after Cursor.moves text 29 search ≠ .done keys) ∧
      after Cursor.moves text 30 search =
        .done [⟨0, ⟨0, 1⟩, ⟨0, 1⟩⟩, ⟨1, ⟨5, 6⟩, ⟨5, 6⟩⟩, ⟨1, ⟨9, 10⟩, ⟨9, 10⟩⟩] := by
  intro text inner later earlier tree search
  obtain ⟨hends, _, _, _, hdone, hsorted⟩ :=
    ends_with_all_keys (Cursor.faithful tree) .root text
  have hsize : tree.size = 15 := by decide +kernel
  rw [hsize] at hends hdone
  refine ⟨Cursor.faithful tree, fun keys hkeys => ?_, hdone.trans ?_⟩
  · exact absurd ((hends 29).mp ⟨keys, hkeys⟩) (by decide)
  · have hfound : tree.preorder.filterMap (keySpan? text) =
        [⟨1, ⟨5, 6⟩, ⟨5, 6⟩⟩, ⟨1, ⟨9, 10⟩, ⟨9, 10⟩⟩, ⟨0, ⟨0, 1⟩, ⟨0, 1⟩⟩] := by decide +kernel
    rw [hfound] at hsorted
    congr 1
    refine ((hsorted _).mp ⟨by decide, by decide, fun start => ?_⟩).symm
    rw [KeySpan.startingAt_cons]
    by_cases hstart : 0 = start
    · subst hstart
      rfl
    · rw [if_neg hstart]
      simp [KeySpan.startingAt_cons, hstart]

end

end Search

end ApiLint.Tree
