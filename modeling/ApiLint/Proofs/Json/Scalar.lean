import Mathlib
import ApiLint.Json.Printer
import ApiLint.Json.Reader

/-!
# Reading what was written: numbers and texts

The reader works on bytes and the writer on characters. `Follows` says which bytes come from a
place on, and reading a piece of them moves the place by the length of the piece
(`Follows.append`); every lemma here and about whole values has this form.

A number is read back because its digits stop where the number does, and do not start with a
zero that more digits follow. For a text the argument is per character (`string_escapeChar`):
there are three ways to write one, and `escapeChar_cases` says what each is read as. The budget of
`string` pays a step for every byte that stands for itself and one for a whole escape, so a
budget of more than the bytes that are left is always enough.
-/

namespace ApiLint.Json

/-- The bytes of a text. -/
def bytesOf (s : String) : List UInt8 := s.toUTF8.data.toList

theorem bytesOf_append (s t : String) : bytesOf (s ++ t) = bytesOf s ++ bytesOf t := by
  rw [bytesOf, String.toUTF8_eq_toByteArray, String.toByteArray_append]
  exact ByteArray.toList_data_append

theorem bytesOf_ofList (text : List Char) :
    bytesOf (String.ofList text) = text.flatMap String.utf8EncodeChar := by
  rw [bytesOf, String.toUTF8_eq_toByteArray, String.toByteArray_ofList, List.utf8Encode,
    List.data_toByteArray]

namespace Reader

/-- What follows in the bytes from `i` on. -/
def Follows (bytes : ByteArray) (i : Nat) (rest : List UInt8) : Prop :=
  bytes.data.toList.drop i = rest

variable {bytes : ByteArray} {i : Nat} {b : UInt8} {front rest more : List UInt8}

theorem follows_bytesOf (s : String) : Follows s.toUTF8 0 (bytesOf s) := rfl

theorem Follows.getElem? (h : Follows bytes i rest) : bytes[i]? = rest.head? := by
  rw [← h, List.head?_drop, Array.getElem?_toList]
  by_cases hi : i < bytes.size
  · rw [getElem?_pos bytes i hi, getElem?_pos bytes.data i hi]
    rfl
  · rw [getElem?_neg bytes i hi, getElem?_neg bytes.data i hi]

theorem Follows.append (h : Follows bytes i (front ++ rest)) :
    Follows bytes (i + front.length) rest := by
  rw [Follows, ← List.drop_drop, h, List.drop_left]

theorem Follows.next (h : Follows bytes i (b :: rest)) : Follows bytes (i + 1) rest := by
  have h : Follows bytes i ([b] ++ rest) := h
  exact h.append

theorem Follows.length_le (h : Follows bytes i rest) : rest.length ≤ bytes.size := by
  rw [← h, List.length_drop]
  exact Nat.sub_le _ _

/-- White space that follows is skipped. -/
theorem skipSpace_append (hspace : ∀ b ∈ front, isSpace b = true)
    (hrest : ∀ b ∈ rest.head?, isSpace b = false) :
    ∀ {fuel i}, Follows bytes i (front ++ rest) → front.length ≤ fuel →
      skipSpace bytes i fuel = i + front.length := by
  induction front with
  | nil =>
      intro fuel i h hfuel
      cases fuel with
      | zero => rfl
      | succ fuel =>
          rw [skipSpace, h.getElem?]
          cases rest with
          | nil => rfl
          | cons b rest =>
              have hb : ¬ isSpace b = true := by simp [hrest b rfl]
              exact if_neg hb
  | cons b front ih =>
      intro fuel i h hfuel
      obtain ⟨fuel, rfl⟩ := Nat.exists_eq_add_one_of_ne_zero (show fuel ≠ 0 by simp at hfuel; omega)
      have hnext := ih (fun c hc => hspace c (List.mem_cons_of_mem _ hc)) h.next
        (Nat.le_of_succ_le_succ hfuel)
      rw [skipSpace, h.getElem?]
      show (if isSpace b then _ else _) = _
      rw [if_pos (hspace b List.mem_cons_self), hnext, List.length_cons]
      omega

/-! ## Numbers -/

/-- Nothing that a number could go on with. -/
def Ends (rest : List UInt8) : Prop :=
  ∀ b ∈ rest.head?, isDigit b = false ∧ b ≠ 46 ∧ b ≠ 69 ∧ b ≠ 101

theorem byte_of_isDigit {c : Char} (h : c.isDigit = true) :
    String.utf8EncodeChar c = [UInt8.ofNat c.toNat] ∧ isDigit (UInt8.ofNat c.toNat) = true ∧
      (UInt8.ofNat c.toNat).toNat = c.toNat := by
  have hbounds : 48 ≤ c.toNat ∧ c.toNat ≤ 57 := by
    simpa [Char.isDigit, UInt32.le_iff_toNat_le] using h
  have hnat : (UInt8.ofNat c.toNat).toNat = c.toNat := by
    rw [UInt8.toNat_ofNat']
    omega
  refine ⟨?_, ?_, hnat⟩
  · rw [String.utf8EncodeChar]
    exact if_pos (show c.toNat ≤ 127 by omega)
  · rw [isDigit, Bool.and_eq_true, decide_eq_true_iff, decide_eq_true_iff, UInt8.le_iff_toNat_le,
      UInt8.le_iff_toNat_le, hnat]
    exact hbounds

theorem digits_append {text : List Char} (htext : ∀ c ∈ text, c.isDigit = true)
    (hrest : ∀ b ∈ rest.head?, isDigit b = false) :
    ∀ {fuel i n count}, Follows bytes i (text.flatMap String.utf8EncodeChar ++ rest) →
      text.length ≤ fuel → digits bytes i n count fuel =
        (Nat.ofDigitChars 10 text n, count + text.length, i + text.length) := by
  induction text with
  | nil =>
      intro fuel i n count h _
      cases fuel with
      | zero => rfl
      | succ fuel =>
          rw [digits, h.getElem?]
          cases rest with
          | nil => rfl
          | cons b rest =>
              have hb : ¬ isDigit b = true := by simp [hrest b rfl]
              exact if_neg hb
  | cons c text ih =>
      intro fuel i n count h hfuel
      obtain ⟨fuel, rfl⟩ := Nat.exists_eq_add_one_of_ne_zero (show fuel ≠ 0 by simp at hfuel; omega)
      obtain ⟨hencode, hdigit, hnat⟩ := byte_of_isDigit (htext c List.mem_cons_self)
      rw [List.flatMap_cons, hencode] at h
      rw [digits, h.getElem?]
      show (if isDigit _ then _ else _) = _
      rw [if_pos hdigit, ih (fun d hd => htext d (List.mem_cons_of_mem _ hd)) h.next
        (Nat.le_of_succ_le_succ hfuel), hnat, Nat.mul_comm n 10, List.length_cons]
      rw [show count + 1 + text.length = count + (text.length + 1) by omega,
        show i + 1 + text.length = i + (text.length + 1) by omega]
      rfl

theorem head_toDigits_ne_zero {n : Nat} (hlong : 1 < (Nat.toDigits 10 n).length) :
    (Nat.toDigits 10 n).head? ≠ some '0' := by
  induction n using Nat.strongRecOn with
  | ind n ih =>
      rcases Nat.lt_or_ge n 10 with hlt | hge
      · rw [Nat.toDigits_of_lt_base hlt] at hlong
        simp at hlong
      · rw [Nat.toDigits_of_base_le (by decide) hge, List.head?_append]
        rcases Nat.lt_or_ge (n / 10) 10 with hlt | hmore
        · rw [Nat.toDigits_of_lt_base hlt]
          have hpos : 0 < n / 10 := by omega
          have : ∀ d < 10, 0 < d → Nat.digitChar d ≠ '0' := by decide
          simpa using this _ hlt hpos
        · have hlonger : 1 < (Nat.toDigits 10 (n / 10)).length := by
            by_contra hshort
            have hle := (Nat.length_toDigits_le_iff (b := 10) (n := n / 10) (k := 1) (by decide)
              (by decide)).mp (by omega)
            omega
          have hhead := ih (n / 10) (by omega) hlonger
          cases hd : (Nat.toDigits 10 (n / 10)).head? with
          | none => exact absurd (List.head?_eq_none_iff.mp hd) Nat.toDigits_ne_nil
          | some c =>
              rw [hd] at hhead
              simpa using hhead

theorem bytesOf_natToString (n : Nat) :
    bytesOf (toString n) = (Nat.toDigits 10 n).flatMap String.utf8EncodeChar := by
  rw [Nat.toString_eq_ofList_toDigits, bytesOf_ofList]

theorem isDigit_of_mem_toDigits {n : Nat} {c : Char} (h : c ∈ Nat.toDigits 10 n) :
    c.isDigit = true :=
  Nat.isDigit_of_mem_toDigits (by decide) (by decide) h

theorem length_bytesOf_natToString (n : Nat) :
    (bytesOf (toString n)).length = (Nat.toDigits 10 n).length := by
  rw [bytesOf_natToString, List.length_flatMap]
  have hone : ∀ c ∈ Nat.toDigits 10 n, (String.utf8EncodeChar c).length = 1 := by
    intro c hc
    rw [(byte_of_isDigit (isDigit_of_mem_toDigits hc)).1]
    rfl
  rw [List.map_congr_left hone, List.map_const', List.sum_replicate]
  simp

/-- A number that is written in digits is read back, if it is one that is kept exactly. -/
theorem number_spec {n : Nat} (hn : n < 2 ^ 64) (hrest : Ends rest)
    (h : Follows bytes i (bytesOf (toString n) ++ rest)) :
    number bytes false i = .ok (.number (.int n), i + (bytesOf (toString n)).length) := by
  have hstop := h.append.getElem?
  have hsize := h.length_le
  rw [List.length_append] at hsize
  rw [length_bytesOf_natToString] at hstop hsize ⊢
  rw [bytesOf_natToString] at h
  have hdigits : digits bytes i 0 0 bytes.size =
      (n, (Nat.toDigits 10 n).length, i + (Nat.toDigits 10 n).length) := by
    rw [digits_append (fun c => isDigit_of_mem_toDigits) (fun b hb => (hrest b hb).1) h (by omega),
      Nat.ofDigitChars_ten_toDigits, Nat.zero_add]
  obtain ⟨c, more, hc⟩ := List.exists_cons_of_ne_nil (Nat.toDigits_ne_nil (n := n) (b := 10))
  have hmem : c ∈ Nat.toDigits 10 n := hc ▸ List.mem_cons_self
  obtain ⟨hencode, hdigit, hnat⟩ := byte_of_isDigit (isDigit_of_mem_toDigits hmem)
  have hfirst : bytes[i]? = some (UInt8.ofNat c.toNat) := by
    rw [h.getElem?, hc, List.flatMap_cons, hencode]
    rfl
  have hlead : ¬ ((UInt8.ofNat c.toNat == 48) = true ∧ (Nat.toDigits 10 n).length > 1) := by
    rintro ⟨hzero, hlong⟩
    refine head_toDigits_ne_zero hlong ?_
    rw [beq_iff_eq] at hzero
    have hcode : c.toNat = 48 := by
      rw [← hnat, hzero]
      rfl
    rw [hc, List.head?_cons, ← Char.ofNat_toNat c, hcode]
  have hholds : holdsInt n = true := by
    rw [holdsInt, Bool.and_eq_true, decide_eq_true_iff, decide_eq_true_iff]
    omega
  rw [number, hfirst]
  dsimp only
  rw [hdigit, hdigits]
  dsimp only
  rw [if_neg (by decide), if_neg hlead, hstop]
  split
  · next heq => exact absurd rfl (hrest _ heq).2.1
  · next heq => exact absurd rfl (hrest _ heq).2.2.1
  · next heq => exact absurd rfl (hrest _ heq).2.2.2
  · rw [if_neg (by decide : ¬ false = true), hholds]
    rfl

/-! ## Strings -/

/-- The bytes of a character that has none of ASCII are none of ASCII. -/
theorem le_of_mem_utf8EncodeChar {c : Char} (hc : 128 ≤ c.toNat)
    (h : b ∈ String.utf8EncodeChar c) : 128 ≤ b.toNat := by
  have hbyte : ∀ n m, 128 ≤ m → n + m < 256 → 128 ≤ (UInt8.ofNat (n + m)).toNat := by
    intro n m hm hlt
    rw [UInt8.toNat_ofNat', Nat.mod_eq_of_lt hlt]
    omega
  have hval : c.val.toNat = c.toNat := rfl
  rw [String.utf8EncodeChar, hval, if_neg (by omega)] at h
  split at h
  · rcases List.mem_cons.mp h with rfl | h
    · exact hbyte _ _ (by omega) (by omega)
    · rw [List.mem_singleton.mp h]
      exact hbyte _ _ (by omega) (by omega)
  · split at h
    · simp only [List.mem_cons, List.not_mem_nil, or_false] at h
      rcases h with rfl | rfl | rfl
      · exact hbyte _ _ (by omega) (by omega)
      · exact hbyte _ _ (by omega) (by omega)
      · exact hbyte _ _ (by omega) (by omega)
    · simp only [List.mem_cons, List.not_mem_nil, or_false] at h
      rcases h with rfl | rfl | rfl | rfl
      · exact hbyte _ _ (by omega) (by omega)
      · exact hbyte _ _ (by omega) (by omega)
      · exact hbyte _ _ (by omega) (by omega)
      · exact hbyte _ _ (by omega) (by omega)

/-- Bytes that stand for themselves are held as they are. -/
theorem string_append {raw : List UInt8}
    (hraw : ∀ b ∈ raw, 32 ≤ b.toNat ∧ b ≠ 34 ∧ b ≠ 92) :
    ∀ {fuel i held}, Follows bytes i (raw ++ rest) →
      string bytes i held (raw.length + fuel) =
        string bytes (i + raw.length) (held ++ raw.toByteArray) fuel := by
  induction raw with
  | nil =>
      intro fuel i held _
      rw [List.length_nil, Nat.zero_add]
      simp
  | cons b raw ih =>
      intro fuel i held h
      obtain ⟨hlow, hquote, hslash⟩ := hraw b List.mem_cons_self
      have hnext : string bytes (i + 1) (held.push b) (raw.length + fuel) =
          string bytes (i + 1 + raw.length) (held.push b ++ raw.toByteArray) fuel :=
        ih (fun c hc => hraw c (List.mem_cons_of_mem _ hc)) h.next
      have hheld : held.push b ++ raw.toByteArray = held ++ (b :: raw).toByteArray := by
        ext1
        simp
      have hlow : ¬ b < 32 := by
        rw [UInt8.lt_iff_toNat_lt]
        exact Nat.not_lt.mpr hlow
      rw [List.length_cons, show raw.length + 1 + fuel = raw.length + fuel + 1 by omega, string,
        h.getElem?, List.cons_append, List.head?_cons]
      split
      · next heq => cases heq
      · next heq => exact absurd (Option.some.inj heq) hquote
      · next heq => exact absurd (Option.some.inj heq) hslash
      · next heq =>
          cases heq
          rw [if_neg hlow, hnext, hheld]
          congr 1
          omega

theorem string_escape {held : ByteArray} {c : Char} {next fuel : Nat}
    (h : Follows bytes i (92 :: rest)) (hescape : escape bytes (i + 1) = .ok (c, next)) :
    string bytes i held (fuel + 1) = string bytes next (held ++ c.toString.toUTF8) fuel := by
  simp only [string, h.getElem?, List.head?_cons, hescape]

theorem hexByte_spec : ∀ n < 32,
    (hexByte n).flatMap String.utf8EncodeChar =
        [UInt8.ofNat (Nat.digitChar (n / 16)).toNat, UInt8.ofNat (Nat.digitChar (n % 16)).toNat] ∧
      hexValue? (UInt8.ofNat (Nat.digitChar (n / 16)).toNat) = some (n / 16) ∧
      hexValue? (UInt8.ofNat (Nat.digitChar (n % 16)).toNat) = some (n % 16) := by
  decide

theorem escape_hexByte {c : Char} (hc : c.toNat < 32)
    (h : Follows bytes i
      (117 :: 48 :: 48 :: (hexByte c.toNat).flatMap String.utf8EncodeChar ++ rest)) :
    escape bytes i = .ok (c, i + 5) := by
  obtain ⟨hbytes, hhigh, hlow⟩ := hexByte_spec c.toNat hc
  rw [hbytes] at h
  simp only [List.cons_append, List.nil_append] at h
  have hunit : hexUnit bytes (i + 1) = .ok (c.toNat, i + 5) := by
    rw [hexUnit, h.next.getElem?, h.next.next.getElem?, h.next.next.next.getElem?,
      h.next.next.next.next.getElem?]
    simp only [List.head?_cons, hhigh, hlow, show hexValue? 48 = some 0 from rfl]
    congr 2
    omega
  rw [escape, h.getElem?]
  show unicodeEscape bytes (i + 1) = _
  rw [unicodeEscape, hunit]
  show (if 0xDC00 ≤ c.toNat ∧ c.toNat ≤ 0xDFFF then _ else
    if c.toNat < 0xD800 ∨ c.toNat > 0xDBFF then Except.ok (Char.ofNat c.toNat, i + 5) else _) = _
  rw [if_neg (by omega), if_pos (by omega), Char.ofNat_toNat]

/-- A character is written with a letter of its own after a backslash, with its number after one,
or as it is. -/
theorem escapeChar_cases (c : Char) :
    (∃ letter code, escapeChar c = ['\\', letter] ∧ String.utf8EncodeChar letter = [code] ∧
      ∀ (bytes : ByteArray) i, bytes[i]? = some code → escape bytes i = .ok (c, i + 1)) ∨
    (c.toNat < 32 ∧ escapeChar c = ['\\', 'u', '0', '0'] ++ hexByte c.toNat) ∨
    32 ≤ c.toNat ∧ c ≠ '"' ∧ c ≠ '\\' ∧ escapeChar c = [c] := by
  have hchar : ∀ n, c.toNat = n → c = Char.ofNat n := by
    rintro n rfl
    exact (Char.ofNat_toNat c).symm
  by_cases hletter :
      c = '"' ∨ c = '\\' ∨ c = '\n' ∨ c = '\r' ∨ c = '\t' ∨ c.toNat = 8 ∨ c.toNat = 12
  · refine Or.inl ?_
    rcases hletter with rfl | rfl | rfl | rfl | rfl | h | h
    · exact ⟨'"', 34, rfl, rfl, fun _ _ h => by rw [escape, h]; rfl⟩
    · exact ⟨'\\', 92, rfl, rfl, fun _ _ h => by rw [escape, h]; rfl⟩
    · exact ⟨'n', 110, rfl, rfl, fun _ _ h => by rw [escape, h]; rfl⟩
    · exact ⟨'r', 114, rfl, rfl, fun _ _ h => by rw [escape, h]; rfl⟩
    · exact ⟨'t', 116, rfl, rfl, fun _ _ h => by rw [escape, h]; rfl⟩
    · rw [hchar 8 h]
      exact ⟨'b', 98, rfl, rfl, fun _ _ h => by rw [escape, h]; rfl⟩
    · rw [hchar 12 h]
      exact ⟨'f', 102, rfl, rfl, fun _ _ h => by rw [escape, h]; rfl⟩
  · simp only [not_or] at hletter
    obtain ⟨hquote, hslash, hfeed, hreturn, htab, hback, hform⟩ := hletter
    rw [escapeChar, if_neg hquote, if_neg hslash, if_neg hfeed, if_neg hreturn, if_neg htab,
      if_neg hback, if_neg hform]
    by_cases hlow : c.toNat < 32
    · exact Or.inr (Or.inl ⟨hlow, if_pos hlow⟩)
    · exact Or.inr (Or.inr ⟨Nat.not_lt.mp hlow, hquote, hslash, if_neg hlow⟩)

/-- The bytes of a character that needs no escape stand for themselves. -/
theorem raw_utf8EncodeChar {c : Char} (hlow : 32 ≤ c.toNat) (hquote : c ≠ '"')
    (hslash : c ≠ '\\') :
    ∀ b ∈ String.utf8EncodeChar c, 32 ≤ b.toNat ∧ b ≠ 34 ∧ b ≠ 92 := by
  intro b hb
  have hcode : ∀ d : Char, c ≠ d → c.toNat ≠ d.toNat :=
    fun d hne heq => hne (Char.toNat_inj.mp heq)
  have hbyte : b.toNat = c.toNat ∨ 128 ≤ b.toNat := by
    by_cases hascii : c.toNat ≤ 127
    · rw [String.utf8EncodeChar, if_pos (show c.val.toNat ≤ 127 from hascii),
        List.mem_singleton] at hb
      refine Or.inl ?_
      rw [hb, UInt8.toNat_ofNat']
      exact Nat.mod_eq_of_lt (show c.toNat < 256 by omega)
    · exact Or.inr (le_of_mem_utf8EncodeChar (by omega) hb)
  have hquote : c.toNat ≠ 34 := hcode '"' hquote
  have hslash : c.toNat ≠ 92 := hcode '\\' hslash
  refine ⟨by omega, ?_, ?_⟩
  · rintro rfl
    simp at hbyte
    omega
  · rintro rfl
    simp at hbyte
    omega

/-- What is written for a character is read as that character. The budget pays for every byte
that stands for itself, and once for an escape. -/
theorem string_escapeChar {c : Char} (held : ByteArray)
    (h : Follows bytes i ((escapeChar c).flatMap String.utf8EncodeChar ++ rest)) :
    ∃ steps ≤ ((escapeChar c).flatMap String.utf8EncodeChar).length, ∀ fuel,
      string bytes i held (steps + fuel) =
        string bytes (i + ((escapeChar c).flatMap String.utf8EncodeChar).length)
          (held ++ c.toString.toUTF8) fuel := by
  rcases escapeChar_cases c with ⟨letter, code, hchar, hcode, hescape⟩ | ⟨hlow, hchar⟩ |
    ⟨hlow, hquote, hslash, hchar⟩
  · have hencode : (escapeChar c).flatMap String.utf8EncodeChar = [92, code] := by
      rw [hchar, List.flatMap_cons, List.flatMap_cons, hcode]
      rfl
    rw [hencode] at h ⊢
    refine ⟨1, by simp, fun fuel => ?_⟩
    rw [Nat.add_comm 1 fuel]
    exact string_escape h (hescape bytes (i + 1) h.next.getElem?)
  · have hencode : (escapeChar c).flatMap String.utf8EncodeChar =
        92 :: 117 :: 48 :: 48 :: (hexByte c.toNat).flatMap String.utf8EncodeChar := by
      rw [hchar]
      rfl
    have hlength : ((escapeChar c).flatMap String.utf8EncodeChar).length = 6 := by
      rw [hencode, (hexByte_spec _ hlow).1]
      rfl
    rw [hlength]
    rw [hencode] at h
    refine ⟨1, by omega, fun fuel => ?_⟩
    rw [Nat.add_comm 1 fuel]
    exact string_escape h (escape_hexByte hlow h.next)
  · have hencode : (escapeChar c).flatMap String.utf8EncodeChar = String.utf8EncodeChar c := by
      rw [hchar, List.flatMap_singleton]
    rw [hencode] at h ⊢
    refine ⟨_, le_rfl, fun fuel => ?_⟩
    rw [string_append (raw_utf8EncodeChar hlow hquote hslash) h, Char.toString,
      String.toUTF8_eq_toByteArray, String.toByteArray_singleton, List.utf8Encode_singleton]

/-- An escaped text is read up to the quote that ends it. -/
theorem string_flatMap_escapeChar {text : List Char} :
    ∀ {i fuel : Nat} {before : List Char},
      Follows bytes i ((text.flatMap escapeChar).flatMap String.utf8EncodeChar ++ 34 :: rest) →
      ((text.flatMap escapeChar).flatMap String.utf8EncodeChar).length < fuel →
      string bytes i before.utf8Encode fuel = .ok (String.ofList (before ++ text),
        i + ((text.flatMap escapeChar).flatMap String.utf8EncodeChar).length + 1) := by
  induction text with
  | nil =>
      intro i fuel before h hfuel
      obtain ⟨fuel, rfl⟩ := Nat.exists_eq_add_one_of_ne_zero (show fuel ≠ 0 by omega)
      have htext : String.fromUTF8? before.utf8Encode = some (String.ofList before) := by
        rw [← String.toByteArray_ofList, String.fromUTF8?]
        exact dif_pos (String.ofList before).isValidUTF8
      rw [string, h.getElem?, List.append_nil]
      show Except.ok ((String.fromUTF8? before.utf8Encode).getD "", i + 1) = _
      rw [htext]
      rfl
  | cons c text ih =>
      intro i fuel before h hfuel
      rw [List.flatMap_cons, List.flatMap_append] at h hfuel ⊢
      rw [List.append_assoc] at h
      rw [List.length_append] at hfuel
      obtain ⟨steps, hsteps, hread⟩ := string_escapeChar before.utf8Encode h
      obtain ⟨left, rfl⟩ : ∃ n, fuel = steps + n := ⟨fuel - steps, by omega⟩
      have hheld : before.utf8Encode ++ c.toString.toUTF8 = (before ++ [c]).utf8Encode := by
        rw [List.utf8Encode_append]
        rfl
      rw [hread, hheld, ih h.append (by omega), List.append_assoc, List.length_append]
      congr 2
      omega

theorem bytesOf_quote (s : String) :
    bytesOf (quote s) =
      34 :: ((s.toList.flatMap escapeChar).flatMap String.utf8EncodeChar ++ [34]) := by
  rw [quote, bytesOf_ofList, List.cons_append, List.flatMap_cons, List.flatMap_append]
  rfl

/-- A quoted text is read back, its opening quote having been read. -/
theorem string_quote {s : String} (h : Follows bytes i (bytesOf (quote s) ++ rest)) :
    string bytes (i + 1) .empty bytes.size.succ = .ok (s, i + (bytesOf (quote s)).length) := by
  have hsize := h.length_le
  rw [bytesOf_quote] at h hsize ⊢
  rw [List.cons_append, List.append_assoc] at h
  simp only [List.length_append, List.length_cons, List.length_nil] at hsize ⊢
  rw [show ByteArray.empty = List.utf8Encode [] from rfl,
    string_flatMap_escapeChar h.next (by omega), List.nil_append, String.ofList_toList]
  congr 2
  omega

end Reader
end ApiLint.Json
