import Mathlib
import ApiLint.Proofs.Json.Scalar

/-!
# Reading what was written: values

A piece of JSON is read wherever it stands (`Reads`): before anything that a number could not go
on with, below lists and objects that leave room for its own, and on any budget that the bytes
from there on pay for. Texts and numbers are read so, and brackets around pieces that are read so
are themselves (`Reads.list`, `Reads.object`); what is written in these ways is read back as a
whole (`read_of_reads`).

The loops over items and over members are two, but differ only in what they make of one piece.
`Loops` says what either does with a piece and with the closing byte, and the induction over the
pieces is made once (`Loops.separated`).

The budget is counted per byte: two steps for each byte that is left are enough for a value, and
one more for the rest of a list. A piece takes its share with its first byte, which is why a loop
goes on with what it was given.
-/

namespace ApiLint.Json

/-! ## Bytes of a layout -/

/-- The bytes of a line break and the blanks after it. -/
def gap (level : Nat) : List UInt8 := 10 :: List.replicate (2 * level) 32

/-- The bytes of pieces that each follow another one. -/
def separated (level : Nat) (pieces : List String) : List UInt8 :=
  pieces.flatMap fun piece => 44 :: (gap level ++ bytesOf piece)

theorem bytesOf_lineBreak (level : Nat) : bytesOf (lineBreak level) = gap level := by
  have hblanks : bytesOf (String.ofList (List.replicate (2 * level) ' ')) =
      List.replicate (2 * level) 32 := by
    rw [bytesOf_ofList, List.flatMap_replicate]
    exact List.flatten_replicate_singleton
  rw [lineBreak, bytesOf_append, hblanks]
  rfl

theorem separated_cons (level : Nat) (piece : String) (pieces : List String) :
    separated level (piece :: pieces) =
      44 :: (gap level ++ (bytesOf piece ++ separated level pieces)) := by
  rw [separated, List.flatMap_cons, List.cons_append, List.append_assoc]
  rfl

theorem bytesOf_intercalate (level : Nat) (piece : String) (pieces : List String) :
    bytesOf (("," ++ lineBreak level).intercalate (piece :: pieces)) =
      bytesOf piece ++ separated level pieces := by
  induction pieces generalizing piece with
  | nil =>
      rw [String.intercalate_singleton]
      exact (List.append_nil _).symm
  | cons next pieces ih =>
      rw [String.intercalate_cons_cons, bytesOf_append, bytesOf_append, bytesOf_append,
        bytesOf_lineBreak, ih, separated_cons, List.append_assoc, List.append_assoc]
      rfl

/-- The bytes between brackets around pieces. -/
def inside (level : Nat) : List String → List UInt8
  | [] => []
  | piece :: pieces =>
    gap (level + 1) ++ (bytesOf piece ++ (separated (level + 1) pieces ++ gap level))

theorem bytesOf_bracketed (level : Nat) (opening closing : String) (pieces : List String) :
    bytesOf (bracketed level opening closing pieces) =
      bytesOf opening ++ (inside level pieces ++ bytesOf closing) := by
  cases pieces with
  | nil => exact bytesOf_append opening closing
  | cons piece pieces =>
      rw [bracketed, List.isEmpty_cons, if_neg Bool.false_ne_true]
      simp only [bytesOf_append, bytesOf_lineBreak, bytesOf_intercalate, inside, List.append_assoc]

namespace Reader

theorem isSpace_of_mem_gap {level : Nat} {b : UInt8} (h : b ∈ gap level) : isSpace b = true := by
  rw [gap, List.mem_cons, List.mem_replicate] at h
  rcases h with rfl | ⟨_, rfl⟩
  · rfl
  · rfl

variable {bytes : ByteArray} {depth i levels inner outer : Nat} {b : UInt8}
  {front rest : List UInt8}

theorem ends_cons (hdigit : isDigit b = false) (hrest : b ≠ 46 ∧ b ≠ 69 ∧ b ≠ 101) :
    Ends (b :: rest) := by
  intro c hc
  obtain rfl : b = c := by simpa using hc
  exact ⟨hdigit, hrest⟩

theorem ends_separated (level outer : Nat) (pieces : List String) :
    Ends (separated level pieces ++ (gap outer ++ rest)) := by
  cases pieces with
  | nil => exact ends_cons rfl (by decide)
  | cons piece pieces =>
      rw [separated_cons]
      exact ends_cons rfl (by decide)

theorem Follows.skipSpace (h : Follows bytes i (front ++ b :: rest))
    (hspace : ∀ b ∈ front, isSpace b = true) (hb : isSpace b = false) :
    skipSpace bytes i bytes.size = i + front.length := by
  have hsize := h.length_le
  rw [List.length_append] at hsize
  exact skipSpace_append hspace (by simpa using hb) h (by omega)

theorem Follows.skipSpace_self (h : Follows bytes i (b :: rest)) (hb : isSpace b = false) :
    Reader.skipSpace bytes i bytes.size = i := by
  have h : Follows bytes i ([] ++ b :: rest) := h
  exact h.skipSpace (List.forall_mem_nil _) hb

/-- A value does not depend on the blanks before it. -/
theorem value_of_gap {fuel : Nat} (h : Follows bytes i (front ++ b :: rest))
    (hspace : ∀ b ∈ front, isSpace b = true) (hb : isSpace b = false) :
    value bytes depth i (fuel + 1) = value bytes depth (i + front.length) (fuel + 1) := by
  rw [value, value, h.skipSpace hspace hb, h.append.skipSpace_self hb]

/-! ## Pieces that are read -/

/-- A piece of JSON is read as a value, wherever it stands with room for `levels` more levels of
lists and objects. -/
structure Reads (levels : Nat) (piece : String) (found : Json) : Prop where
  starts : ∃ first more, bytesOf piece = first :: more ∧ isSpace first = false ∧ first ≠ 93
  value_eq : ∀ {bytes : ByteArray} {depth i fuel : Nat} {rest : List UInt8},
    Follows bytes i (bytesOf piece ++ rest) → Ends rest → depth + levels < depthLimit →
      2 * (bytesOf piece ++ rest).length ≤ fuel →
        value bytes depth i fuel = .ok (found, i + (bytesOf piece).length)

theorem Reads.mono {levels more : Nat} {piece : String} {found : Json}
    (h : Reads levels piece found) (hle : levels ≤ more) : Reads more piece found where
  starts := h.starts
  value_eq hfollows hrest hdepth hfuel := h.value_eq hfollows hrest (by omega) hfuel

theorem reads_quote (s : String) : Reads 0 (quote s) (.string s) where
  starts := ⟨34, _, bytesOf_quote s, rfl, by decide⟩
  value_eq := by
    intro bytes depth i fuel rest h _ _ hfuel
    have hread := string_quote h
    rw [bytesOf_quote] at h hfuel
    obtain ⟨fuel, rfl⟩ := Nat.exists_eq_add_one_of_ne_zero (show fuel ≠ 0 by simp at hfuel; omega)
    rw [value, h.skipSpace_self rfl, h.getElem?, List.cons_append, List.head?_cons]
    simp only [hread]

theorem isSpace_of_isDigit (hb : isDigit b = true) : isSpace b = false := by
  rw [isDigit, Bool.and_eq_true, decide_eq_true_iff, decide_eq_true_iff, UInt8.le_iff_toNat_le,
    UInt8.le_iff_toNat_le] at hb
  have hne : ∀ n : UInt8, n.toNat < 48 → (b == n) = false := by
    intro n hn
    rw [beq_eq_false_iff_ne]
    rintro rfl
    exact absurd hb.1 (Nat.not_le.mpr hn)
  rw [isSpace, hne 32 (by decide), hne 10 (by decide), hne 9 (by decide), hne 13 (by decide)]
  rfl

theorem value_of_isDigit {fuel : Nat} (h : Follows bytes i (b :: rest)) (hb : isDigit b = true) :
    value bytes depth i (fuel + 1) = number bytes false i := by
  rw [value, h.skipSpace_self (isSpace_of_isDigit hb), h.getElem?, List.head?_cons]
  -- No digit is one of the bytes that another kind of value starts with.
  split
  · next heq => cases heq
  · next heq => cases heq; cases hb
  · next heq => cases heq; cases hb
  · next heq => cases heq; cases hb
  · next heq => cases heq; cases hb
  · next heq => cases heq; cases hb
  · next heq => cases heq; cases hb
  · next heq => cases heq; cases hb
  · next heq => cases heq; exact if_pos hb

theorem reads_natToString {n : Nat} (hn : n < 2 ^ 64) :
    Reads 0 (toString n) (.number (.int n)) := by
  obtain ⟨c, more, hc⟩ := List.exists_cons_of_ne_nil (Nat.toDigits_ne_nil (n := n) (b := 10))
  obtain ⟨hencode, hdigit, _⟩ :=
    byte_of_isDigit (isDigit_of_mem_toDigits (n := n) (c := c) (hc ▸ List.mem_cons_self))
  have hbytes : bytesOf (toString n) =
      UInt8.ofNat c.toNat :: more.flatMap String.utf8EncodeChar := by
    rw [bytesOf_natToString, hc, List.flatMap_cons, hencode]
    rfl
  refine ⟨⟨_, _, hbytes, isSpace_of_isDigit hdigit, ?_⟩, ?_⟩
  · intro heq
    rw [heq] at hdigit
    exact absurd hdigit (by decide)
  · intro bytes depth i fuel rest h hrest _ hfuel
    have hread := number_spec hn hrest h
    rw [hbytes] at h hfuel
    obtain ⟨fuel, rfl⟩ := Nat.exists_eq_add_one_of_ne_zero (show fuel ≠ 0 by simp at hfuel; omega)
    rw [value_of_isDigit h hdigit, hread]

/-! ## Loops over pieces -/

/-- What the loops over items and over members have in common. The closing byte ends them, and a
piece is read, with a comma before it unless it is the first one, and added to what is held. -/
structure Loops {α β γ : Type} (bytes : ByteArray) (closing : UInt8) (reads : String → α → Prop)
    (add : β → α → β) (done : β → γ) (loop : Nat → Bool → β → Nat → Step γ) : Prop where
  close : ∀ {i fuel : Nat} {first : Bool} {held : β} {front rest : List UInt8},
    Follows bytes i (front ++ closing :: rest) → (∀ b ∈ front, isSpace b = true) →
      loop i first held (fuel + 1) = .ok (done held, i + front.length + 1)
  first : ∀ {i fuel : Nat} {held : β} {front rest : List UInt8} {piece : String} {item : α},
    reads piece item → Follows bytes i (front ++ (bytesOf piece ++ rest)) →
      (∀ b ∈ front, isSpace b = true) → Ends rest → 2 * (bytesOf piece ++ rest).length ≤ fuel →
        loop i true held (fuel + 1) =
          loop (i + front.length + (bytesOf piece).length) false (add held item) fuel
  next : ∀ {i fuel : Nat} {held : β} {front rest : List UInt8} {piece : String} {item : α},
    reads piece item → Follows bytes i (44 :: (front ++ (bytesOf piece ++ rest))) →
      (∀ b ∈ front, isSpace b = true) → Ends rest → 2 * (bytesOf piece ++ rest).length ≤ fuel →
        loop i false held (fuel + 1) =
          loop (i + 1 + front.length + (bytesOf piece).length) false (add held item) fuel

section

variable {α β γ : Type} {closing : UInt8} {reads : String → α → Prop} {add : β → α → β}
  {done : β → γ} {loop : Nat → Bool → β → Nat → Step γ} {pieces : List String} {found : List α}

theorem Loops.separated (hloops : Loops bytes closing reads add done loop)
    (hreads : List.Forall₂ reads pieces found) :
    ∀ {i fuel : Nat} {held : β},
      Follows bytes i (separated inner pieces ++ (gap outer ++ closing :: rest)) →
      2 * (separated inner pieces ++ (gap outer ++ closing :: rest)).length + 1 ≤ fuel →
      loop i false held fuel = .ok (done (found.foldl add held),
        i + (separated inner pieces).length + (gap outer).length + 1) := by
  induction hreads with
  | nil =>
      intro i fuel held h hfuel
      obtain ⟨fuel, rfl⟩ := Nat.exists_eq_add_one_of_ne_zero (show fuel ≠ 0 by omega)
      exact hloops.close h (fun _ => isSpace_of_mem_gap)
  | @cons piece item pieces found hpiece _ ih =>
      intro i fuel held h hfuel
      obtain ⟨fuel, rfl⟩ := Nat.exists_eq_add_one_of_ne_zero (show fuel ≠ 0 by omega)
      rw [separated_cons] at h hfuel ⊢
      simp only [List.cons_append, List.append_assoc] at h
      simp only [List.length_append, List.length_cons] at hfuel ⊢
      rw [hloops.next hpiece h (fun _ => isSpace_of_mem_gap) (ends_separated inner outer pieces)
          (by simp only [List.length_append, List.length_cons]; omega),
        ih h.next.append.append (by simp only [List.length_append, List.length_cons]; omega),
        List.foldl_cons]
      congr 2
      omega

theorem Loops.whole {level : Nat} (hloops : Loops bytes closing reads add done loop)
    (hreads : List.Forall₂ reads pieces found) {fuel : Nat} (held : β)
    (h : Follows bytes i (inside level pieces ++ closing :: rest))
    (hfuel : 2 * (inside level pieces ++ closing :: rest).length + 1 ≤ fuel) :
    loop i true held fuel =
      .ok (done (found.foldl add held), i + (inside level pieces).length + 1) := by
  obtain ⟨fuel, rfl⟩ := Nat.exists_eq_add_one_of_ne_zero (show fuel ≠ 0 by omega)
  cases hreads with
  | nil => exact hloops.close h (List.forall_mem_nil _)
  | @cons piece item pieces found hpiece hpieces =>
      have hgap : 0 < (gap (level + 1)).length := Nat.succ_pos _
      rw [inside] at h hfuel ⊢
      simp only [List.append_assoc] at h
      simp only [List.length_append, List.length_cons] at hfuel ⊢
      rw [hloops.first hpiece h (fun _ => isSpace_of_mem_gap)
          (ends_separated (level + 1) level pieces)
          (by simp only [List.length_append, List.length_cons]; omega),
        hloops.separated hpieces h.append.append
          (by simp only [List.length_append, List.length_cons]; omega),
        List.foldl_cons]
      congr 2
      omega

/-- Brackets that a loop reads between make a piece of what is read inside. -/
theorem reads_bracketed {opening : UInt8} {left right : String} {wrap : γ → Json}
    {run : ByteArray → Nat → Nat → Bool → β → Nat → Step γ} {start : β} (level : Nat)
    (hleft : bytesOf left = [opening]) (hright : bytesOf right = [closing])
    (hopening : isSpace opening = false ∧ opening ≠ 93)
    (hloops : ∀ bytes depth, depth + levels < depthLimit →
      Loops bytes closing reads add done (run bytes depth))
    (hvalue : ∀ {bytes : ByteArray} {depth i fuel next : Nat} {rest : List UInt8} {result : γ},
      Follows bytes i (opening :: rest) → depth + 1 < depthLimit →
        run bytes (depth + 1) (i + 1) true start fuel = .ok (result, next) →
          value bytes depth i (fuel + 1) = .ok (wrap result, next))
    (hreads : List.Forall₂ reads pieces found) :
    Reads (levels + 1) (bracketed level left right pieces)
      (wrap (done (found.foldl add start))) := by
  have hbytes : bytesOf (bracketed level left right pieces) =
      opening :: (inside level pieces ++ [closing]) := by
    rw [bytesOf_bracketed, hleft, hright]
    rfl
  refine ⟨⟨_, _, hbytes, hopening⟩, ?_⟩
  intro bytes depth i fuel rest h _ hdepth hfuel
  rw [hbytes] at h hfuel ⊢
  simp only [List.cons_append, List.append_assoc, List.nil_append] at h hfuel
  obtain ⟨fuel, rfl⟩ := Nat.exists_eq_add_one_of_ne_zero (show fuel ≠ 0 by simp at hfuel; omega)
  have hread : run bytes (depth + 1) (i + 1) true start fuel =
      .ok (done (found.foldl add start), i + 1 + (inside level pieces).length + 1) := by
    rw [List.length_cons] at hfuel
    exact (hloops bytes (depth + 1) (by omega)).whole hreads start h.next (by omega)
  rw [hvalue h (by omega) hread, List.length_cons, List.length_append, List.length_singleton]
  congr 2
  omega

end

/-! ## Lists -/

section Items

variable {fuel : Nat} {held : List Json} {piece : String} {item : Json}

theorem items_close {first : Bool} (h : Follows bytes i (front ++ 93 :: rest))
    (hspace : ∀ b ∈ front, isSpace b = true) :
    items bytes depth i first held (fuel + 1) = .ok (held.reverse, i + front.length + 1) := by
  rw [items, h.skipSpace hspace rfl, h.append.getElem?]
  rfl

theorem items_first (hpiece : Reads levels piece item)
    (h : Follows bytes i (front ++ (bytesOf piece ++ rest)))
    (hspace : ∀ b ∈ front, isSpace b = true)
    (hread : value bytes depth (i + front.length) fuel =
      .ok (item, i + front.length + (bytesOf piece).length)) :
    items bytes depth i true held (fuel + 1) =
      items bytes depth (i + front.length + (bytesOf piece).length) false (item :: held) fuel := by
  obtain ⟨first, more, hfirst, hblank, hbracket⟩ := hpiece.starts
  rw [hfirst] at h
  rw [items, h.skipSpace hspace hblank, h.append.getElem?]
  split
  · next heq => cases heq
  · next heq => cases heq; exact absurd rfl hbracket
  · next heq => simp only [if_true, hread]

theorem items_next (hpiece : Reads levels piece item)
    (h : Follows bytes i (44 :: (front ++ (bytesOf piece ++ rest))))
    (hspace : ∀ b ∈ front, isSpace b = true)
    (hread : value bytes depth (i + 1 + front.length) fuel =
      .ok (item, i + 1 + front.length + (bytesOf piece).length)) :
    items bytes depth i false held (fuel + 1) =
      items bytes depth (i + 1 + front.length + (bytesOf piece).length) false (item :: held)
        fuel := by
  obtain ⟨first, more, hfirst, hblank, hbracket⟩ := hpiece.starts
  have hnext := h.next
  rw [hfirst] at hnext
  rw [items, h.skipSpace_self rfl, h.getElem?, List.head?_cons]
  simp only [Bool.false_eq_true, if_false, hnext.skipSpace hspace hblank, hnext.append.getElem?,
    List.cons_append, List.head?_cons]
  split
  · next heq => cases heq
  · next heq => cases heq
  · next heq =>
      cases heq
      simp only [BEq.rfl, if_true, hread]

theorem items_loops (hdepth : depth + levels < depthLimit) :
    Loops bytes 93 (Reads levels) (fun held item => item :: held) List.reverse
      (items bytes depth) where
  close := items_close
  first hpiece h hspace hrest hfuel :=
    items_first hpiece h hspace (hpiece.value_eq h.append hrest hdepth hfuel)
  next hpiece h hspace hrest hfuel :=
    items_next hpiece h hspace (hpiece.value_eq h.next.append hrest hdepth hfuel)

theorem value_of_items {found : List Json} {next : Nat} (h : Follows bytes i (91 :: rest))
    (hdepth : depth + 1 < depthLimit)
    (hread : items bytes (depth + 1) (i + 1) true [] fuel = .ok (found, next)) :
    value bytes depth i (fuel + 1) = .ok (.array found, next) := by
  rw [value, h.skipSpace_self rfl, h.getElem?, List.head?_cons]
  simp only [if_neg hdepth.ne, hread]

end Items

theorem Reads.list {pieces : List String} {found : List Json} (level : Nat)
    (hreads : List.Forall₂ (Reads levels) pieces found) :
    Reads (levels + 1) (bracketed level "[" "]" pieces) (.array found) := by
  have hlist : (found.foldl (fun held item => item :: held) []).reverse = found := by simp
  rw [← hlist]
  exact reads_bracketed level rfl rfl (by decide) (fun _ _ => items_loops) value_of_items hreads

/-! ## Objects -/

/-- A member of an object is its name and a piece that is read as its value. -/
def ReadsMember (levels : Nat) (piece : String) (member : String × Json) : Prop :=
  ∃ text, piece = quote member.1 ++ ": " ++ text ∧ Reads levels text member.2

section Members

variable {fuel : Nat} {held : Members} {piece : String} {member : String × Json}

theorem ReadsMember.bytesOf_eq (h : ReadsMember levels piece member) :
    ∃ more, bytesOf piece = 34 :: more := by
  obtain ⟨text, rfl, _⟩ := h
  rw [bytesOf_append, bytesOf_append, bytesOf_quote]
  exact ⟨_, rfl⟩

/-- The members from one on whose opening quote has been read, up to `i`. -/
def membersFrom (bytes : ByteArray) (depth i : Nat) (held : Members) (fuel : Nat) :
    Step Members :=
  match string bytes i .empty bytes.size.succ with
  | .error fault => .error fault
  | .ok (name, next) =>
    match bytes[skipSpace bytes next bytes.size]? with
    | none => peeked bytes .eofInObject (skipSpace bytes next bytes.size)
    | some 58 =>
      match value bytes depth (skipSpace bytes next bytes.size + 1) fuel with
      | .error fault => .error fault
      | .ok (item, next) => members bytes depth next false (held.insert name item) fuel
    | some _ => peeked bytes .expectedColon (skipSpace bytes next bytes.size)

/-- A member is read in three steps: its name, the colon, and its value after a blank. -/
theorem membersFrom_append (hmember : ReadsMember levels piece member)
    (h : Follows bytes i (bytesOf piece ++ rest)) (hrest : Ends rest)
    (hdepth : depth + levels < depthLimit) (hfuel : 2 * (bytesOf piece ++ rest).length ≤ fuel) :
    membersFrom bytes depth (i + 1) held fuel =
      members bytes depth (i + (bytesOf piece).length) false (held.insert member.1 member.2)
        fuel := by
  obtain ⟨text, rfl, hvalue⟩ := hmember
  obtain ⟨first, more, hfirst, hblank, _⟩ := hvalue.starts
  rw [bytesOf_append, bytesOf_append, show bytesOf ": " = [58, 32] from rfl] at h hfuel ⊢
  simp only [List.append_assoc, List.cons_append, List.nil_append] at h
  simp only [List.length_append, List.length_cons, List.length_nil] at hfuel ⊢
  obtain ⟨fuel, rfl⟩ := Nat.exists_eq_add_one_of_ne_zero (show fuel ≠ 0 by omega)
  have hcolon := h.append
  have hgap : Follows bytes (i + (bytesOf (quote member.1)).length + 1)
      ([32] ++ (bytesOf text ++ rest)) := hcolon.next
  rw [hfirst] at hgap
  have hread : value bytes depth (i + (bytesOf (quote member.1)).length + 1) (fuel + 1) =
      .ok (member.2, i + (bytesOf (quote member.1)).length + 1 + 1 + (bytesOf text).length) :=
    (value_of_gap hgap (by simp [isSpace]) hblank).trans
      (hvalue.value_eq hcolon.next.next hrest hdepth (by rw [List.length_append]; omega))
  simp only [membersFrom, string_quote h, hcolon.skipSpace_self rfl, hcolon.getElem?,
    List.head?_cons, hread]
  exact congrArg (fun next => members bytes depth next false _ _) (by omega)

theorem members_close {first : Bool} (h : Follows bytes i (front ++ 125 :: rest))
    (hspace : ∀ b ∈ front, isSpace b = true) :
    members bytes depth i first held (fuel + 1) = .ok (held, i + front.length + 1) := by
  rw [members, h.skipSpace hspace rfl, h.append.getElem?]
  rfl

theorem members_first (h : Follows bytes i (front ++ 34 :: rest))
    (hspace : ∀ b ∈ front, isSpace b = true) :
    members bytes depth i true held (fuel + 1) =
      membersFrom bytes depth (i + front.length + 1) held fuel := by
  rw [members, h.skipSpace hspace rfl, h.append.getElem?]
  rfl

theorem members_next (h : Follows bytes i (44 :: (front ++ 34 :: rest)))
    (hspace : ∀ b ∈ front, isSpace b = true) :
    members bytes depth i false held (fuel + 1) =
      membersFrom bytes depth (i + 1 + front.length + 1) held fuel := by
  rw [members, h.skipSpace_self rfl, h.getElem?]
  simp only [Bool.false_eq_true, if_false, h.next.skipSpace hspace rfl, h.next.append.getElem?,
    List.head?_cons]
  rfl

theorem members_loops (hdepth : depth + levels < depthLimit) :
    Loops bytes 125 (ReadsMember levels) (fun held member => held.insert member.1 member.2) id
      (members bytes depth) where
  close := members_close
  first := by
    intro i fuel held front rest piece member hmember h hspace hrest hfuel
    rw [← membersFrom_append hmember h.append hrest hdepth hfuel]
    obtain ⟨more, hquote⟩ := hmember.bytesOf_eq
    rw [hquote] at h
    exact members_first h hspace
  next := by
    intro i fuel held front rest piece member hmember h hspace hrest hfuel
    rw [← membersFrom_append hmember h.next.append hrest hdepth hfuel]
    obtain ⟨more, hquote⟩ := hmember.bytesOf_eq
    rw [hquote] at h
    exact members_next h hspace

theorem value_of_members {found : Members} {next : Nat} (h : Follows bytes i (123 :: rest))
    (hdepth : depth + 1 < depthLimit)
    (hread : members bytes (depth + 1) (i + 1) true [] fuel = .ok (found, next)) :
    value bytes depth i (fuel + 1) = .ok (.object found, next) := by
  rw [value, h.skipSpace_self rfl, h.getElem?, List.head?_cons]
  simp only [if_neg hdepth.ne, hread]

end Members

theorem Reads.object {pieces : List String} {found : List (String × Json)} (level : Nat)
    (hreads : List.Forall₂ (ReadsMember levels) pieces found) :
    Reads (levels + 1) (bracketed level "\x7b" "\x7d" pieces) (.object (Members.ofList found)) :=
  reads_bracketed level rfl rfl (by decide) (fun _ _ => members_loops) value_of_members hreads

end Reader

open Reader in
/-- What is read wherever it stands is read back as a whole text, with a line feed after it. -/
theorem read_of_reads {levels : Nat} {piece : String} {found : Json}
    (h : Reads levels piece found) (hlevels : levels < depthLimit) :
    read (piece ++ "\n") = .ok found := by
  have hbytes : bytesOf (piece ++ "\n") = bytesOf piece ++ [10] := bytesOf_append piece "\n"
  have hfollows : Follows (piece ++ "\n").toUTF8 0 (bytesOf piece ++ [10]) :=
    hbytes ▸ follows_bytesOf _
  have hsize : (piece ++ "\n").toUTF8.size = (bytesOf piece).length + 1 := by
    show (bytesOf (piece ++ "\n")).length = _
    rw [hbytes, List.length_append]
    rfl
  have hvalue : value (piece ++ "\n").toUTF8 0 0 (2 * (piece ++ "\n").toUTF8.size + 2) =
      .ok (found, 0 + (bytesOf piece).length) :=
    h.value_eq hfollows (ends_cons rfl (by decide)) (by omega)
      (by rw [hsize, List.length_append]; simp)
  have hbreak : Follows (piece ++ "\n").toUTF8 (0 + (bytesOf piece).length) ([10] ++ []) :=
    hfollows.append
  have hskip : skipSpace (piece ++ "\n").toUTF8 (0 + (bytesOf piece).length)
      (piece ++ "\n").toUTF8.size = 0 + (bytesOf piece).length + 1 :=
    skipSpace_append (by simp [isSpace]) (by simp) hbreak (by rw [hsize]; simp)
  have hdocument : document (piece ++ "\n").toUTF8 = .ok found := by
    rw [document, hvalue]
    dsimp only
    rw [hskip]
    exact if_neg (by rw [hsize]; simp)
  rw [read]
  dsimp only
  rw [hdocument]

end ApiLint.Json
