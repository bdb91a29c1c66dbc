import ApiLint.Proofs.Json.Object
import ApiLint.Yaml.Json

/-!
# What becomes of a YAML value

Turning a YAML value into a JSON value goes down the value once, and what it loses is listed by
`KeepsData`: tags, numbers that are not finite, and entries whose key is written like that of a
later one. Nothing is moved: what a path leads to in the JSON value is what the part of the YAML
value that it leads to is turned into (`at?_toJson`). Of that, one step is the work
(`child?_toJson`), and the case with something in it is a mapping. Its entries are put into an
object one after another, so under each name stands the last one with that name
(`get?_entriesToJson`).

Every proper JSON value comes about in this way, and no other: read as a YAML value, it is turned
into itself (`toJson_ofJson`).
-/

namespace ApiLint.Yaml

/-! ## Parts of values -/

/-- The value without the tags that stand before it. -/
def untagged : Yaml → Yaml
  | .tagged _ value => untagged value
  | value => value

mutual

/-- The value without its tags and those of the values in it. -/
def withoutTags : Yaml → Yaml
  | .sequence items => .sequence (itemsWithoutTags items)
  | .mapping entries => .mapping (entriesWithoutTags entries)
  | .tagged _ value => withoutTags value
  | value => value

def itemsWithoutTags : List Yaml → List Yaml
  | [] => []
  | item :: rest => withoutTags item :: itemsWithoutTags rest

/-- Keys stay as they are, since a tag is part of how a key is written. -/
def entriesWithoutTags : List (Yaml × Yaml) → List (Yaml × Yaml)
  | [] => []
  | (key, value) :: rest => (key, withoutTags value) :: entriesWithoutTags rest

end

/-- The value of the last entry whose key is written like this. -/
def latest? (name : String) (entries : List (Yaml × Yaml)) : Option Yaml :=
  (entries.filter fun entry => keyName entry.1 == name).getLast?.map Prod.snd

/-- The part that a step leads to: an item of a sequence, or a value of a mapping, where an index
is taken for the name that it writes. -/
def child? (value : Yaml) (step : Segment) : Option Yaml :=
  match value.untagged, step with
  | .sequence items, .index n => items[n]?
  | .mapping entries, step => latest? (String.ofList step.display) entries
  | _, _ => none

/-- The part that a path leads to. -/
def at? (value : Yaml) (path : Path) : Option Yaml := path.foldlM child? value

mutual

/-- The JSON value as a YAML value. -/
def ofJson : Json → Yaml
  | .null => .null
  | .bool b => .bool b
  | .number n => .number n
  | .string s => .string s
  | .array items => .sequence (itemsOfJson items)
  | .object members => .mapping (entriesOfJson members)

def itemsOfJson : List Json → List Yaml
  | [] => []
  | item :: rest => ofJson item :: itemsOfJson rest

def entriesOfJson : Json.Members → List (Yaml × Yaml)
  | [] => []
  | (name, value) :: rest => (.string name, ofJson value) :: entriesOfJson rest

end

/-! ## Numbers -/

/-- The number as a signed integer of 64 bits. -/
def signed? : Json.Number → Option Int
  | .int n => if -0x8000000000000000 ≤ n ∧ n < 0x8000000000000000 then some n else none
  | .float _ => none

/-- The number as an unsigned integer of 64 bits. -/
def unsigned? : Json.Number → Option Nat
  | .int n => if 0 ≤ n ∧ n < 0x10000000000000000 then some n.toNat else none
  | .float _ => none

/-- The number as a double. -/
def double : Json.Number → Double
  | .int n => .ofInt n
  | .float x => x

/-- The number as JSON, by the first reading that it has: as a signed integer, as an unsigned
integer, or as a double. -/
def numberByReading (n : Json.Number) : Json :=
  match signed? n with
  | some i => .number (.int i)
  | none =>
    match unsigned? n with
    | some u => .number (.int u)
    | none => if (double n).isFinite then .number (.float (double n)) else .null

/-- An integer of 64 bits is never read as a double. -/
theorem numberByReading_int {n : Int} (h : Json.holdsInt n = true) :
    numberByReading (.int n) = .number (.int n) := by
  have hbounds : -0x8000000000000000 ≤ n ∧ n < 0x10000000000000000 := by
    simpa [Json.holdsInt] using h
  -- What is too large to be signed is not negative, so the second reading has it.
  by_cases hsigned : -0x8000000000000000 ≤ n ∧ n < 0x8000000000000000
  · simp only [numberByReading, signed?, if_pos hsigned]
  · have hunsigned : 0 ≤ n ∧ n < 0x10000000000000000 := by omega
    have hsame : (n.toNat : Int) = n := Int.toNat_of_nonneg hunsigned.1
    simp only [numberByReading, signed?, unsigned?, if_neg hsigned, if_pos hunsigned, hsame]

theorem numberByReading_float (x : Double) :
    numberByReading (.float x) = toJson (.number (.float x)) := by
  rw [toJson]
  rfl

/-! ## Sequences and mappings -/

theorem itemsToJson_eq (items : List Yaml) : itemsToJson items = items.map toJson := by
  induction items with
  | nil => rw [itemsToJson, List.map_nil]
  | cons item rest ih => rw [itemsToJson, ih, List.map_cons]

theorem toJson_sequence (items : List Yaml) :
    toJson (.sequence items) = .array (items.map toJson) := by
  rw [toJson, itemsToJson_eq]

theorem latest?_cons (name : String) (entry : Yaml × Yaml) (rest : List (Yaml × Yaml)) :
    latest? name (entry :: rest) =
      if keyName entry.1 = name then some ((latest? name rest).getD entry.2)
      else latest? name rest := by
  rw [latest?, List.filter_cons]
  by_cases hname : keyName entry.1 = name
  · rw [if_pos (beq_iff_eq.mpr hname), if_pos hname, List.getLast?_cons, latest?]
    cases (rest.filter fun entry => keyName entry.1 == name).getLast? with
    | none => rfl
    | some last => rfl
  · rw [if_neg (mt beq_iff_eq.mp hname), if_neg hname, latest?]

theorem isSome_latest?_iff {name : String} {entries : List (Yaml × Yaml)} :
    (latest? name entries).isSome = true ↔ name ∈ entries.map fun entry => keyName entry.1 := by
  induction entries with
  | nil => simp [latest?]
  | cons entry rest ih =>
      rw [latest?_cons, List.map_cons, List.mem_cons]
      split
      · next hname => exact iff_of_true rfl (Or.inl hname.symm)
      · next hname => rw [ih, or_iff_right (Ne.symm hname)]

theorem get?_entriesToJson (name : String) (entries : List (Yaml × Yaml)) (held : Json.Members) :
    (entriesToJson entries held).get? name =
      ((latest? name entries).map toJson).or (held.get? name) := by
  induction entries generalizing held with
  | nil => rw [entriesToJson]; rfl
  | cons entry rest ih =>
      obtain ⟨key, value⟩ := entry
      rw [entriesToJson, ih, Json.Members.get?_insert, latest?_cons]
      by_cases hname : keyName key = name
      · rw [if_pos hname, if_pos hname]
        cases latest? name rest with
        | none => rfl
        | some last => rfl
      · rw [if_neg hname, if_neg hname]

theorem ordered_entriesToJson (entries : List (Yaml × Yaml)) {held : Json.Members}
    (h : held.Ordered) : (entriesToJson entries held).Ordered := by
  induction entries generalizing held with
  | nil => rw [entriesToJson]; exact h
  | cons entry rest ih =>
      rw [entriesToJson]
      exact ih h.insert

/-! ## Parts and tags -/

/-- A step leads to the same part before and after. -/
theorem child?_toJson (value : Yaml) (step : Segment) :
    (toJson value).child? step = (value.child? step).map toJson := by
  induction value using untagged.induct with
  | case1 tag value ih => rw [toJson]; exact ih
  | case2 value hvalue =>
      cases value with
      | null => rw [toJson]; rfl
      | bool b => rw [toJson]; rfl
      | number n =>
          cases n with
          | int n => rw [toJson]; rfl
          | float x =>
              rw [toJson]
              split
              · rfl
              · rfl
      | string s => rw [toJson]; rfl
      | sequence items =>
          rw [toJson_sequence]
          cases step with
          -- Items keep their places.
          | index n => exact List.getElem?_map
          | key name => rfl
      | mapping entries =>
          rw [toJson]
          show Json.Members.get? _ (entriesToJson entries []) = _
          rw [get?_entriesToJson]
          exact Option.or_none
      | tagged tag value => exact absurd rfl (hvalue tag value)

theorem at?_toJson (value : Yaml) (path : Path) :
    (toJson value).at? path = (value.at? path).map toJson := by
  induction path generalizing value with
  | nil => rfl
  | cons step rest ih =>
      rw [Json.at?, at?, List.foldlM_cons, List.foldlM_cons, child?_toJson]
      cases value.child? step with
      | none => rfl
      | some part => exact ih part

mutual

theorem toJson_withoutTags (value : Yaml) : toJson value.withoutTags = toJson value := by
  match value with
  | .null | .bool _ | .number _ | .string _ => rw [withoutTags]; all_goals nofun
  | .sequence items => rw [withoutTags, toJson, toJson, itemsToJson_withoutTags]
  | .mapping entries => rw [withoutTags, toJson, toJson, entriesToJson_withoutTags]
  | .tagged tag value => rw [withoutTags, toJson, toJson_withoutTags]

theorem itemsToJson_withoutTags (items : List Yaml) :
    itemsToJson (itemsWithoutTags items) = itemsToJson items := by
  match items with
  | [] => rw [itemsWithoutTags]
  | item :: rest =>
      rw [itemsWithoutTags, itemsToJson, itemsToJson, toJson_withoutTags, itemsToJson_withoutTags]

theorem entriesToJson_withoutTags (entries : List (Yaml × Yaml)) (held : Json.Members) :
    entriesToJson (entriesWithoutTags entries) held = entriesToJson entries held := by
  match entries with
  | [] => rw [entriesWithoutTags]
  | (key, value) :: rest =>
      rw [entriesWithoutTags, entriesToJson, entriesToJson, toJson_withoutTags,
        entriesToJson_withoutTags]

end

/-! ## Proper values -/

mutual

theorem isProper_toJson (value : Yaml) : (toJson value).IsProper := by
  match value with
  | .null => rw [toJson]; exact .null
  | .bool b => rw [toJson]; exact .bool b
  | .number (.int n) => rw [toJson]; exact .int n
  | .number (.float x) =>
      rw [toJson]
      split
      · next hfinite => exact .float hfinite
      · exact .null
  | .string s => rw [toJson]; exact .string s
  | .sequence items => rw [toJson]; exact .array (isProper_itemsToJson items)
  | .mapping entries =>
      rw [toJson]
      exact .object (ordered_entriesToJson entries List.Pairwise.nil)
        (isProper_entriesToJson entries nofun)
  | .tagged tag value => rw [toJson]; exact isProper_toJson value

theorem isProper_itemsToJson (items : List Yaml) : ∀ item ∈ itemsToJson items, item.IsProper := by
  match items with
  | [] => rw [itemsToJson]; exact nofun
  | item :: rest =>
      rw [itemsToJson]
      exact List.forall_mem_cons.mpr ⟨isProper_toJson item, isProper_itemsToJson rest⟩

theorem isProper_entriesToJson (entries : List (Yaml × Yaml)) {held : Json.Members}
    (h : ∀ member ∈ held, member.2.IsProper) :
    ∀ member ∈ entriesToJson entries held, member.2.IsProper := by
  match entries with
  | [] => rw [entriesToJson]; exact h
  | (key, value) :: rest =>
      rw [entriesToJson]
      refine isProper_entriesToJson rest fun member hmem => ?_
      rcases Json.Members.mem_insert hmem with rfl | hheld
      · exact isProper_toJson value
      · exact h member hheld

end

theorem itemsOfJson_eq (items : List Json) : itemsOfJson items = items.map ofJson := by
  induction items with
  | nil => rw [itemsOfJson, List.map_nil]
  | cons item rest ih => rw [itemsOfJson, ih, List.map_cons]

/-- Members that come after all those held are put behind them. -/
theorem entriesToJson_entriesOfJson {members : Json.Members} :
    ∀ {held : Json.Members}, Json.Members.Ordered (held ++ members) →
      (∀ member ∈ members, toJson (ofJson member.2) = member.2) →
      entriesToJson (entriesOfJson members) held = held ++ members := by
  induction members with
  | nil =>
      intro held _ _
      rw [entriesOfJson, entriesToJson, List.append_nil]
  | cons member rest ih =>
      intro held hordered hsame
      obtain ⟨name, value⟩ := member
      obtain ⟨hvalue, hrest⟩ := List.forall_mem_cons.mp hsame
      have hlast : ∀ earlier ∈ held, earlier.1 < name := fun earlier hmem =>
        (List.pairwise_append.mp hordered).2.2 earlier hmem _ List.mem_cons_self
      have happend : held ++ (name, value) :: rest = held ++ [(name, value)] ++ rest := by simp
      rw [entriesOfJson, entriesToJson, hvalue, keyName, Json.Members.insert_of_lt hlast,
        happend]
      exact ih (happend ▸ hordered) hrest

theorem toJson_ofJson {json : Json} (h : json.IsProper) : toJson (ofJson json) = json := by
  induction h with
  | null => rw [ofJson, toJson]
  | bool b => rw [ofJson, toJson]
  | int n => rw [ofJson, toJson]
  | float hfinite => rw [ofJson, toJson, if_pos hfinite]
  | string s => rw [ofJson, toJson]
  | @array items _ ih =>
      rw [ofJson, toJson, itemsToJson_eq, itemsOfJson_eq, List.map_map]
      exact congrArg Json.array ((List.map_congr_left ih).trans (List.map_id items))
  | @object members hordered _ ih =>
      have hrebuilt : entriesToJson (entriesOfJson members) [] = [] ++ members :=
        entriesToJson_entriesOfJson hordered ih
      rw [ofJson, toJson, hrebuilt, List.nil_append]

theorem isProper_iff_exists_toJson {json : Json} :
    json.IsProper ↔ ∃ value, toJson value = json := by
  constructor
  · exact fun h => ⟨ofJson json, toJson_ofJson h⟩
  · rintro ⟨value, rfl⟩
    exact isProper_toJson value

/-! ## What is kept -/

/-- What a way to turn YAML values into JSON values keeps, and what it loses. -/
structure KeepsData (convert : Yaml → Json) : Prop where
  null : convert .null = .null
  bool (b : Bool) : convert (.bool b) = .bool b
  string (s : String) : convert (.string s) = .string s
  int (n : Int) (held : Json.holdsInt n = true) : convert (.number (.int n)) = .number (.int n)
  float (x : Double) :
    convert (.number (.float x)) = if x.isFinite = true then .number (.float x) else .null
  sequence (items : List Yaml) : convert (.sequence items) = .array (items.map convert)
  mapping (entries : List (Yaml × Yaml)) :
    ∃ members : Json.Members, convert (.mapping entries) = .object members ∧ members.Ordered ∧
      (∀ name, name ∈ members.map Prod.fst ↔ name ∈ entries.map fun entry => keyName entry.1) ∧
      ∀ name, members.get? name = (latest? name entries).map convert
  tagged (tag : String) (value : Yaml) : convert (.tagged tag value) = convert value
  withoutTags (value : Yaml) : convert value.withoutTags = convert value
  part (value : Yaml) (path : Path) : (convert value).at? path = (value.at? path).map convert

theorem exists_toJson_mapping (entries : List (Yaml × Yaml)) :
    ∃ members : Json.Members, toJson (.mapping entries) = .object members ∧ members.Ordered ∧
      (∀ name, name ∈ members.map Prod.fst ↔ name ∈ entries.map fun entry => keyName entry.1) ∧
      ∀ name, members.get? name = (latest? name entries).map toJson := by
  have hget : ∀ name, Json.Members.get? name (entriesToJson entries []) =
      (latest? name entries).map toJson := fun name =>
    (get?_entriesToJson name entries []).trans Option.or_none
  refine ⟨entriesToJson entries [], by rw [toJson],
    ordered_entriesToJson entries List.Pairwise.nil, fun name => ?_, hget⟩
  rw [← Json.Members.isSome_get?_iff, hget, Option.isSome_map, isSome_latest?_iff]

example : toJson (.mapping [(.number (.int 200), .null), (.null, .tagged "!t" (.bool false)),
    (.string "200", .sequence [.bool true])]) =
    .object [("200", .array [.bool true]), ("null", .bool false)] := by rfl

/-- The data of a YAML value is kept, its integers without being read as doubles, and what comes
about are the proper JSON values, each of which is also a YAML value that is turned into it. -/
theorem toJson_spec :
    KeepsData toJson ∧
      (∀ n, Json.holdsInt n = true → numberByReading (.int n) = toJson (.number (.int n))) ∧
      (∀ x, numberByReading (.float x) = toJson (.number (.float x))) ∧
      (∀ json : Json, json.IsProper ↔ ∃ value, toJson value = json) ∧
      ∀ json : Json, json.IsProper → toJson (ofJson json) = json := by
  have hkeeps : KeepsData toJson :=
    { null := by rw [toJson]
      bool := fun b => by rw [toJson]
      string := fun s => by rw [toJson]
      int := fun n _ => by rw [toJson]
      float := fun x => by rw [toJson]
      sequence := toJson_sequence
      mapping := exists_toJson_mapping
      tagged := fun tag value => by rw [toJson]
      withoutTags := toJson_withoutTags
      part := at?_toJson }
  refine ⟨hkeeps, fun n hn => ?_, numberByReading_float, fun _ => isProper_iff_exists_toJson,
    fun _ => toJson_ofJson⟩
  rw [numberByReading_int hn, hkeeps.int n hn]

/-- Integers at either end of their range, a negative zero, and names in the order of their
characters. -/
theorem toJson_ofJson_of_extremes :
    let items : List Json :=
      [.number (.int (-0x8000000000000000)), .number (.int 0xFFFFFFFFFFFFFFFF)]
    let json : Json := .object [("", .array items),
      ("10", .number (.float (.finite true 0 (-1074)))), ("9", .object [])]
    numberByReading (.int 0xFFFFFFFFFFFFFFFF) = .number (.int 0xFFFFFFFFFFFFFFFF) ∧
      toJson (ofJson json) = json := by
  intro items json
  have hitems : Json.IsProper (.array items) :=
    .array (List.forall_mem_cons.mpr ⟨.int _, List.forall_mem_cons.mpr ⟨.int _, nofun⟩⟩)
  have hzero : Json.IsProper (.number (.float (.finite true 0 (-1074)))) := .float rfl
  have hempty : Json.IsProper (.object []) := .object List.Pairwise.nil nofun
  have hproper : json.IsProper :=
    .object (by decide) (List.forall_mem_cons.mpr ⟨hitems,
      List.forall_mem_cons.mpr ⟨hzero, List.forall_mem_cons.mpr ⟨hempty, nofun⟩⟩⟩)
  obtain ⟨hkeeps, hreading, _, _, hback⟩ := toJson_spec
  exact ⟨(hreading _ (by decide)).trans (hkeeps.int _ (by decide)), hback json hproper⟩

end ApiLint.Yaml
