import Mathlib.Data.String.Basic
import ApiLint.Json.Value
import ApiLint.Path

/-!
# Objects and the parts of JSON values

An object is kept as the list of its members in increasing order of their names
(`Members.Ordered`), so each name is there once. Putting a member in keeps the order, changes what
is found under its own name and under no other (`get?_insert`), and adds no other name. A member
whose name comes after all others is put at the end (`insert_of_lt`), so an ordered list is built
again by putting its members into the empty object one after another.

`Json.IsProper` says of a value that all of its objects are ordered and all of its numbers finite;
`Json.at?` follows a path into it.
-/

namespace ApiLint.Json

namespace Members

variable {name other : String} {value : Json} {members : Members}

/-- The names are in increasing order. -/
def Ordered (members : Members) : Prop :=
  members.Pairwise fun member later => member.1 < later.1

instance (members : Members) : Decidable members.Ordered :=
  inferInstanceAs (Decidable (members.Pairwise fun member later => member.1 < later.1))

theorem get?_cons (member : String × Json) (rest : Members) :
    get? name (member :: rest) = if member.1 = name then some member.2 else get? name rest := by
  rw [get?]

/-- Only the name that was put in is affected. -/
theorem get?_insert (name other : String) (value : Json) (members : Members) :
    (members.insert name value).get? other =
      if name = other then some value else members.get? other := by
  induction members with
  | nil => rfl
  | cons member rest ih =>
      obtain ⟨first, held⟩ := member
      rw [insert]
      split
      · rw [get?_cons]
      · split
        · next hsame =>
            rw [get?_cons, get?_cons, hsame]
            split
            · rfl
            · rfl
        · next hdifferent =>
            rw [get?_cons, get?_cons, ih]
            by_cases hfirst : first = other
            · have hname : ¬ name = other := fun h => hdifferent (h.trans hfirst.symm)
              rw [if_pos hfirst, if_pos hfirst, if_neg hname]
            · rw [if_neg hfirst, if_neg hfirst]

theorem mem_insert {member : String × Json} (h : member ∈ members.insert name value) :
    member = (name, value) ∨ member ∈ members := by
  induction members with
  | nil => exact Or.inl (List.mem_singleton.mp h)
  | cons first rest ih =>
      rw [insert] at h
      split at h
      · exact List.mem_cons.mp h
      · split at h
        · exact (List.mem_cons.mp h).imp_right (List.mem_cons_of_mem first)
        · rcases List.mem_cons.mp h with rfl | hrest
          · exact Or.inr List.mem_cons_self
          · exact (ih hrest).imp_right (List.mem_cons_of_mem first)

theorem Ordered.insert (h : members.Ordered) : Ordered (members.insert name value) := by
  induction members with
  | nil => exact List.pairwise_singleton _ _
  | cons first rest ih =>
      obtain ⟨hfirst, hrest⟩ := List.pairwise_cons.mp h
      rw [Members.insert]
      split
      · next hless =>
          refine List.pairwise_cons.mpr ⟨fun member hmem => ?_, h⟩
          rcases List.mem_cons.mp hmem with rfl | hmem
          · exact hless
          · exact lt_trans hless (hfirst member hmem)
      · next hnotLess =>
          split
          · next hsame =>
              exact List.pairwise_cons.mpr ⟨fun member hmem => hsame ▸ hfirst member hmem, hrest⟩
          · next hdifferent =>
              refine List.pairwise_cons.mpr ⟨fun member hmem => ?_, ih hrest⟩
              rcases mem_insert hmem with rfl | hmem
              · exact lt_of_le_of_ne (not_lt.mp hnotLess) (Ne.symm hdifferent)
              · exact hfirst member hmem

/-- A member that comes after all others is put at the end. -/
theorem insert_of_lt (h : ∀ member ∈ members, member.1 < name) :
    members.insert name value = members ++ [(name, value)] := by
  induction members with
  | nil => rfl
  | cons first rest ih =>
      obtain ⟨hfirst, hrest⟩ := List.forall_mem_cons.mp h
      rw [insert, if_neg (lt_asymm hfirst), if_neg (ne_of_gt hfirst), ih hrest]
      rfl

theorem isSome_get?_iff : (members.get? name).isSome = true ↔ name ∈ members.map Prod.fst := by
  induction members with
  | nil => simp [get?]
  | cons member rest ih =>
      rw [get?_cons, List.map_cons, List.mem_cons]
      split
      · next hname => exact iff_of_true rfl (Or.inl hname.symm)
      · next hname => rw [ih, or_iff_right (Ne.symm hname)]

end Members

/-- A value with unique names and finite numbers at every depth. An object is kept in the order of
its names whatever order they came in, so its names are unique exactly if they increase. -/
inductive IsProper : Json → Prop
  | null : IsProper .null
  | bool (b : Bool) : IsProper (.bool b)
  | int (n : Int) : IsProper (.number (.int n))
  | float {x : Double} (hfinite : x.isFinite = true) : IsProper (.number (.float x))
  | string (s : String) : IsProper (.string s)
  | array {items : List Json} (hitems : ∀ item ∈ items, IsProper item) : IsProper (.array items)
  | object {members : Members} (hordered : members.Ordered)
      (hmembers : ∀ member ∈ members, IsProper member.2) : IsProper (.object members)

/-- The part that a step leads to: an item of an array, or a member of an object, where an index
is taken for the name that it writes. -/
def child? : Json → Segment → Option Json
  | .array items, .index n => items[n]?
  | .object members, step => Members.get? (String.ofList step.display) members
  | _, _ => none

/-- The part that a path leads to. -/
def at? (value : Json) (path : Path) : Option Json := path.foldlM child? value

end ApiLint.Json
