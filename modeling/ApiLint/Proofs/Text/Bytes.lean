import ApiLint.Text.Bytes

/-!
# Bytes and characters

A byte offset means something exactly when a front of the text fills it, so
everything here is said about texts that are split: the bytes of `before` lead to
`after` in `before ++ after`. `bytes?_eq_some_iff` is the form in which the rest of
the library meets a cut, and `exists_append_of_byteLength_le` compares two ways of
splitting one text by their bytes.

A front that is known by its number of characters is `text.take n`, and its bytes end at a
boundary: `bytes?_take` cuts between two such fronts.
-/

namespace ApiLint.Text

@[simp] theorem byteLength_nil : byteLength [] = 0 := rfl

@[simp] theorem byteLength_cons (c : Char) (text : Text) :
    byteLength (c :: text) = c.utf8Size + byteLength text := rfl

@[simp] theorem byteLength_append (before after : Text) :
    byteLength (before ++ after) = byteLength before + byteLength after := by
  induction before with
  | nil => simp
  | cons c rest ih =>
      rw [List.cons_append, byteLength_cons, byteLength_cons, ih, Nat.add_assoc]

theorem byteLength_append_newline (before line : Text) :
    byteLength (before ++ line ++ ['\n']) = byteLength before + byteLength line + 1 := by
  rw [byteLength_append, byteLength_append]
  rfl

theorem length_le_byteLength (text : Text) : text.length ≤ byteLength text := by
  induction text with
  | nil => exact Nat.le_refl _
  | cons c rest ih =>
      have hc : 0 < c.utf8Size := c.utf8Size_pos
      rw [List.length_cons, byteLength_cons]
      omega

theorem byteLength_pos {text : Text} (h : text ≠ []) : 0 < byteLength text := by
  have hl : 0 < text.length := List.length_pos_iff.mpr h
  have hb := length_le_byteLength text
  omega

/-- Two fronts of one text: the shorter in bytes is a front of the other. -/
theorem exists_append_of_byteLength_le {a b c d : Text} (h : a ++ b = c ++ d)
    (hle : byteLength a ≤ byteLength c) : ∃ middle, c = a ++ middle ∧ b = middle ++ d := by
  rcases List.append_eq_append_iff.mp h with ⟨middle, hc, hb⟩ | ⟨middle, ha, hd⟩
  · exact ⟨middle, hc, hb⟩
  · have hm : middle = [] := by
      rcases middle with _ | ⟨m, rest⟩
      · rfl
      · have hpos : 0 < byteLength (m :: rest) := byteLength_pos (by simp)
        rw [ha, byteLength_append] at hle
        omega
    subst hm
    exact ⟨[], by simpa using ha.symm, by simpa using hd.symm⟩

/-- Of two fronts of one text, the one with more line feeds has more bytes. -/
theorem byteLength_lt_of_count_lt {a b c d : Text} (h : a ++ b = c ++ d)
    (hlt : a.count '\n' < c.count '\n') : byteLength a < byteLength c := by
  rcases Nat.lt_or_ge (byteLength a) (byteLength c) with hbytes | hbytes
  · exact hbytes
  · obtain ⟨middle, ha, _⟩ := exists_append_of_byteLength_le h.symm hbytes
    rw [ha, List.count_append] at hlt
    omega

/-! ## Fronts by bytes -/

theorem takeBytes_zero (text : Text) : takeBytes 0 text = [] := by
  cases text with
  | nil => rfl
  | cons c rest =>
      have hc : 0 < c.utf8Size := c.utf8Size_pos
      rw [takeBytes, if_neg (by omega)]

theorem takeBytes_add (before after : Text) (n : Nat) :
    takeBytes (byteLength before + n) (before ++ after) = before ++ takeBytes n after := by
  induction before with
  | nil => simp
  | cons c rest ih =>
      rw [List.cons_append, takeBytes, byteLength_cons, if_pos (by omega)]
      rw [show c.utf8Size + byteLength rest + n - c.utf8Size = byteLength rest + n by omega, ih]
      rfl

@[simp] theorem takeBytes_byteLength (before after : Text) :
    takeBytes (byteLength before) (before ++ after) = before := by
  have h := takeBytes_add before after 0
  rwa [Nat.add_zero, takeBytes_zero, List.append_nil] at h

theorem exists_takeBytes_append (n : Nat) (text : Text) :
    ∃ rest, text = takeBytes n text ++ rest := by
  induction text generalizing n with
  | nil => exact ⟨[], rfl⟩
  | cons c rest ih =>
      rw [takeBytes]
      split
      · obtain ⟨more, hmore⟩ := ih (n - c.utf8Size)
        exact ⟨more, by rw [List.cons_append, ← hmore]⟩
      · exact ⟨c :: rest, rfl⟩

theorem exists_takeBytes_eq_append {n m : Nat} (hle : n ≤ m) (text : Text) :
    ∃ more, takeBytes m text = takeBytes n text ++ more := by
  induction text generalizing n m with
  | nil => exact ⟨[], rfl⟩
  | cons c rest ih =>
      by_cases hc : c.utf8Size ≤ n
      · obtain ⟨more, hmore⟩ := ih (Nat.sub_le_sub_right hle c.utf8Size)
        rw [takeBytes, takeBytes, if_pos hc, if_pos (Nat.le_trans hc hle), hmore]
        exact ⟨more, rfl⟩
      · have hnone : takeBytes n (c :: rest) = [] := by rw [takeBytes, if_neg hc]
        rw [hnone]
        exact ⟨_, rfl⟩

theorem takeBytes?_eq_some_iff {n : Nat} {text piece : Text} :
    takeBytes? n text = some piece ↔ ∃ after, text = piece ++ after ∧ byteLength piece = n := by
  constructor
  · intro h
    rw [takeBytes?] at h
    split at h
    · next hn =>
        injection h with h
        obtain ⟨rest, hrest⟩ := exists_takeBytes_append n text
        exact ⟨rest, by rw [← h]; exact hrest, by rw [← h]; exact hn⟩
    · cases h
  · rintro ⟨after, rfl, rfl⟩
    rw [takeBytes?, takeBytes_byteLength, if_pos rfl]

theorem dropBytes?_byteLength (before after : Text) :
    dropBytes? (byteLength before) (before ++ after) = some after := by
  induction before with
  | nil => cases after <;> rfl
  | cons c rest ih =>
      have hc : 0 < c.utf8Size := c.utf8Size_pos
      rw [List.cons_append, byteLength_cons]
      obtain ⟨n, hn⟩ : ∃ n, c.utf8Size + byteLength rest = n + 1 :=
        ⟨c.utf8Size + byteLength rest - 1, by omega⟩
      rw [hn, dropBytes?, if_pos (by omega),
        show n + 1 - c.utf8Size = byteLength rest by omega, ih]

theorem dropBytes?_eq_some_iff {n : Nat} {text after : Text} :
    dropBytes? n text = some after ↔ ∃ before, text = before ++ after ∧ byteLength before = n := by
  constructor
  · intro h
    induction text generalizing n with
    | nil =>
        cases n with
        | zero => exact ⟨[], by simpa [dropBytes?] using h, rfl⟩
        | succ n => cases h
    | cons c rest ih =>
        cases n with
        | zero => exact ⟨[], by simpa [dropBytes?] using h, rfl⟩
        | succ n =>
            rw [dropBytes?] at h
            split at h
            · next hc =>
                obtain ⟨before, hrest, hlen⟩ := ih h
                exact ⟨c :: before, by rw [hrest]; rfl, by rw [byteLength_cons]; omega⟩
            · cases h
  · rintro ⟨before, rfl, rfl⟩
    exact dropBytes?_byteLength before after

/-! ## Pieces -/

/-- A cut gives the piece of text that lies between its two offsets. -/
theorem bytes?_eq_some_iff {start stop : Nat} {text piece : Text} :
    text.bytes? start stop = some piece ↔
      ∃ before after, text = before ++ (piece ++ after) ∧ byteLength before = start ∧
        start + byteLength piece = stop := by
  constructor
  · intro h
    rw [bytes?] at h
    split at h
    · next hle =>
        obtain ⟨rest, hdrop, htake⟩ := Option.bind_eq_some_iff.mp h
        obtain ⟨before, htext, hbefore⟩ := dropBytes?_eq_some_iff.mp hdrop
        obtain ⟨after, hrest, hpiece⟩ := takeBytes?_eq_some_iff.mp htake
        exact ⟨before, after, by rw [htext, hrest], hbefore, by omega⟩
    · cases h
  · rintro ⟨before, after, rfl, rfl, rfl⟩
    rw [bytes?, if_pos (by omega), dropBytes?_byteLength, Option.bind_some]
    exact takeBytes?_eq_some_iff.mpr ⟨after, rfl, by omega⟩

/-- What lies between two offsets, when the text is known to be split there. -/
theorem bytes?_middle (before piece after : Text) :
    bytes? (byteLength before) (byteLength before + byteLength piece)
      (before ++ (piece ++ after)) = some piece :=
  bytes?_eq_some_iff.mpr ⟨before, after, rfl, rfl, rfl⟩

/-- The byte of a character is the length of what precedes it. -/
theorem byteOf?_length (before : Text) (c : Char) (after : Text) :
    byteOf? before.length (before ++ c :: after) = some (byteLength before) := by
  induction before with
  | nil => rfl
  | cons d rest ih =>
      rw [List.cons_append, List.length_cons, byteOf?, ih]
      rfl

theorem byteOf?_of_length_le {n : Nat} {text : Text} (h : text.length ≤ n) :
    byteOf? n text = none := by
  induction text generalizing n with
  | nil => rw [byteOf?]
  | cons c rest ih =>
      rw [List.length_cons] at h
      obtain ⟨m, rfl⟩ : ∃ m, n = m + 1 := ⟨n - 1, by omega⟩
      rw [byteOf?, ih (by omega), Option.map_none]

/-! ## Fronts by characters -/

/-- Byte `n` of the text stands between two of its characters, or at one of its ends. -/
def IsBoundary (text : Text) (n : Nat) : Prop :=
  ∃ before after, text = before ++ after ∧ byteLength before = n

theorem isBoundary_byteLength_take (text : Text) (n : Nat) :
    IsBoundary text (byteLength (text.take n)) :=
  ⟨_, _, (List.take_append_drop n text).symm, rfl⟩

theorem byteOf?_of_lt {n : Nat} {text : Text} (h : n < text.length) :
    byteOf? n text = some (byteLength (text.take n)) := by
  have hbyte := byteOf?_length (text.take n) text[n] (text.drop (n + 1))
  rwa [List.length_take_of_le (Nat.le_of_lt h), ← List.drop_eq_getElem_cons h,
    List.take_append_drop] at hbyte

theorem isBoundary_of_byteOf? {n byte : Nat} {text : Text} (h : byteOf? n text = some byte) :
    IsBoundary text byte := by
  rcases Nat.lt_or_ge n text.length with hlt | hge
  · rw [byteOf?_of_lt hlt] at h
    exact Option.some.inj h ▸ isBoundary_byteLength_take text n
  · rw [byteOf?_of_length_le hge] at h
    cases h

theorem getD_byteOf? {text : Text} {n : Nat} (h : n ≤ text.length) :
    (byteOf? n text).getD (byteLength text) = byteLength (text.take n) := by
  rcases Nat.lt_or_eq_of_le h with hlt | rfl
  · rw [byteOf?_of_lt hlt, Option.getD_some]
  · rw [byteOf?_of_length_le (Nat.le_refl _), Option.getD_none, List.take_length]

theorem byteLength_take_lt {n m : Nat} {text : Text} (hlt : n < m) (hn : n < text.length) :
    byteLength (text.take n) < byteLength (text.take m) := by
  obtain ⟨k, rfl⟩ := Nat.exists_eq_add_of_lt hlt
  have hpos : 0 < byteLength ((text.drop n).take (k + 1)) :=
    byteLength_pos (List.ne_nil_of_length_pos (by simp; omega))
  rw [Nat.add_assoc, List.take_add, byteLength_append]
  omega

/-- From the byte of one character up to that of another lie the characters between them. -/
theorem bytes?_take {start stop : Nat} (hle : start ≤ stop) (text : Text) :
    bytes? (byteLength (text.take start)) (byteLength (text.take stop)) text =
      some ((text.take stop).drop start) := by
  obtain ⟨k, rfl⟩ := Nat.exists_eq_add_of_le hle
  have hpiece : (text.take (start + k)).drop start = (text.drop start).take k := by
    rw [List.drop_take, Nat.add_sub_cancel_left]
  have htext : text = text.take start ++ ((text.drop start).take k ++ text.drop (start + k)) := by
    rw [← List.append_assoc, ← List.take_add, List.take_append_drop]
  rw [hpiece]
  refine bytes?_eq_some_iff.mpr ⟨_, _, htext, rfl, ?_⟩
  rw [List.take_add, byteLength_append]

theorem bytes?_take_of_lt {start stop : Nat} {text : Text} (hlt : stop < start)
    (hstop : stop < text.length) :
    bytes? (byteLength (text.take start)) (byteLength (text.take stop)) text = none := by
  rw [bytes?, if_neg (Nat.not_le.mpr (byteLength_take_lt hlt hstop))]

end ApiLint.Text
