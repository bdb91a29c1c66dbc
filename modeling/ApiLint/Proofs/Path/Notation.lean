import ApiLint.Path
import ApiLint.Proofs.Text.Run

/-!
# Which keys are numbers

The recogniser of numbers is written in layers: white space is trimmed off, a sign is looked past
for some questions and kept for others, and a text that starts like a literal of another base is
decided there and then. What it accepts is a grammar all the same, `IsNumeral`, with the parts that
one expects: signs, mantissas, exponents, literals. `isNumber_iff` is proved part by part, each
reader against its part of the grammar.

The layers do not get in each other's way because of which characters there are. A literal of
another base has a letter in second place that decimal notation has nowhere (`IsDecimal.subset`),
so deciding it early takes nothing from decimal notation. For the same reason decimal notation can
be told by a reader of floating-point numbers (`isNumberBy_eq`): the words which such a reader
accepts besides have letters that are filtered out before.
-/

namespace ApiLint

namespace Numeral

/-! ## The grammar -/

/-- One or more of the characters. -/
def RowOf (chars : String) (row : Text) : Prop := row ≠ [] ∧ ∀ c ∈ row, c ∈ chars.toList

/-- At most one sign. -/
inductive IsSign : Text → Prop
  | absent : IsSign []
  | plus : IsSign ['+']
  | minus : IsSign ['-']

/-- Decimal digits with at most one point, and at least one digit in all. -/
inductive IsMantissa : Text → Prop
  | whole {digits : Text} (hdigits : RowOf "0123456789" digits) : IsMantissa digits
  | point {digits fraction : Text} (hdigits : RowOf "0123456789" digits)
      (hfraction : ∀ c ∈ fraction, c ∈ "0123456789".toList) :
      IsMantissa (digits ++ '.' :: fraction)
  | fraction {digits : Text} (hdigits : RowOf "0123456789" digits) : IsMantissa ('.' :: digits)

/-- Nothing, or a letter for the power of ten and the power. -/
inductive IsExponent : Text → Prop
  | absent : IsExponent []
  | power {mark : Char} {sign digits : Text} (hmark : mark = 'e' ∨ mark = 'E')
      (hsign : IsSign sign) (hdigits : RowOf "0123456789" digits) :
      IsExponent (mark :: (sign ++ digits))

/-- A number in decimal notation. -/
inductive IsDecimal : Text → Prop
  | mk {sign mantissa exponent : Text} (hsign : IsSign sign) (hmantissa : IsMantissa mantissa)
      (hexponent : IsExponent exponent) : IsDecimal (sign ++ (mantissa ++ exponent))

/-- A number in another base than ten. -/
inductive IsLiteral : Text → Prop
  | hexadecimal {mark : Char} {digits : Text} (hmark : mark = 'x' ∨ mark = 'X')
      (hdigits : RowOf "0123456789abcdefABCDEF" digits) : IsLiteral ('0' :: mark :: digits)
  | octal {mark : Char} {digits : Text} (hmark : mark = 'o' ∨ mark = 'O')
      (hdigits : RowOf "01234567" digits) : IsLiteral ('0' :: mark :: digits)
  | binary {mark : Char} {digits : Text} (hmark : mark = 'b' ∨ mark = 'B')
      (hdigits : RowOf "01" digits) : IsLiteral ('0' :: mark :: digits)

/-- The texts that are numbers, and the empty text. -/
inductive IsNumeral : Text → Prop
  | blank : IsNumeral []
  | infinity {sign : Text} (hsign : IsSign sign) : IsNumeral (sign ++ "Infinity".toList)
  | literal {text : Text} (hliteral : IsLiteral text) : IsNumeral text
  | decimal {text : Text} (hdecimal : IsDecimal text) : IsNumeral text

/-! ## Characters -/

theorem isDecimal_iff {c : Char} : isDecimal c = true ↔ c ∈ "0123456789".toList := by
  simp only [isDecimal, Char.le_def, UInt32.le_iff_toNat_le, Bool.and_eq_true, decide_eq_true_eq,
    String.reduceToList, List.mem_cons, List.not_mem_nil, or_false, Char.ext_iff, Char.reduceVal,
    UInt32.ext_iff, UInt32.reduceToNat]
  omega

theorem isSome_digitValue?_iff {base : Nat} {c : Char} :
    (digitValue? base c).isSome = true ↔
      (48 ≤ c.toNat ∧ c.toNat ≤ 57 ∧ c.toNat - 48 < base) ∨
      (97 ≤ c.toNat ∧ c.toNat ≤ 122 ∧ c.toNat - 87 < base) ∨
      (65 ≤ c.toNat ∧ c.toNat ≤ 90 ∧ c.toNat - 55 < base) := by
  have h0 : ('0' ≤ c) = (48 ≤ c.toNat) := propext UInt32.le_iff_toNat_le
  have h9 : (c ≤ '9') = (c.toNat ≤ 57) := propext UInt32.le_iff_toNat_le
  have ha : ('a' ≤ c) = (97 ≤ c.toNat) := propext UInt32.le_iff_toNat_le
  have hz : (c ≤ 'z') = (c.toNat ≤ 122) := propext UInt32.le_iff_toNat_le
  have hA : ('A' ≤ c) = (65 ≤ c.toNat) := propext UInt32.le_iff_toNat_le
  have hZ : (c ≤ 'Z') = (c.toNat ≤ 90) := propext UInt32.le_iff_toNat_le
  simp only [digitValue?, isDecimal, Bool.and_eq_true, decide_eq_true_eq, h0, h9, ha, hz, hA, hZ,
    Option.isSome_ite]
  split_ifs <;> omega

theorem rowOf_iff {chars : String} {p : Char → Bool} (hp : ∀ {c}, p c = true ↔ c ∈ chars.toList)
    (row : Text) : RowOf chars row ↔ (!row.isEmpty && row.all p) = true := by
  simp [RowOf, hp]

/-- The characters of ASCII that are digits of a base, and no other characters. -/
def AreDigits (base : Nat) (chars : String) : Prop :=
  (∀ n < 128, (digitValue? base (Char.ofNat n)).isSome = true ↔ Char.ofNat n ∈ chars.toList) ∧
    ∀ c ∈ chars.toList, c.toNat < 128

instance (base : Nat) (chars : String) : Decidable (AreDigits base chars) :=
  decidable_of_iff
    ((List.range 128).all (fun n =>
        (digitValue? base (Char.ofNat n)).isSome = true ↔ Char.ofNat n ∈ chars.toList) ∧
      chars.toList.all (·.toNat < 128))
    (by simp only [AreDigits, List.all_eq_true, List.mem_range, decide_eq_true_iff])

/-- No digit of any base lies beyond ASCII. -/
theorem AreDigits.isSome_iff {base : Nat} {chars : String} (h : AreDigits base chars) {c : Char} :
    (digitValue? base c).isSome = true ↔ c ∈ chars.toList := by
  rcases Nat.lt_or_ge c.toNat 128 with hascii | hbeyond
  · have hc := h.1 c.toNat hascii
    rwa [Char.ofNat_toNat] at hc
  · refine iff_of_false ?_ fun hmem => absurd (h.2 c hmem) (Nat.not_lt.mpr hbeyond)
    rw [isSome_digitValue?_iff]
    omega

theorem AreDigits.rowOf_iff {base : Nat} {chars : String} (h : AreDigits base chars) (row : Text) :
    RowOf chars row ↔ (!row.isEmpty && row.all fun c => (digitValue? base c).isSome) = true :=
  Numeral.rowOf_iff h.isSome_iff row

theorem RowOf.isDecimal_of_mem {row : Text} (h : RowOf "0123456789" row) :
    ∀ c ∈ row, isDecimal c = true := fun c hc => isDecimal_iff.mpr (h.2 c hc)

/-! ## Signs -/

theorem exists_isSign (text : Text) : ∃ sign, IsSign sign ∧ text = sign ++ unsigned text := by
  rw [unsigned.eq_def]
  split
  · exact ⟨_, .plus, rfl⟩
  · exact ⟨_, .minus, rfl⟩
  · exact ⟨_, .absent, rfl⟩

theorem IsSign.unsigned_append {sign rest : Text} (h : IsSign sign) (hrest : unsigned rest = rest) :
    unsigned (sign ++ rest) = rest := by
  cases h with
  | absent => exact hrest
  | plus => rfl
  | minus => rfl

theorem unsigned_cons {c : Char} (hplus : c ≠ '+') (hminus : c ≠ '-') (rest : Text) :
    unsigned (c :: rest) = c :: rest := by
  rw [unsigned.eq_def]
  split
  · next heq => injection heq with hc; exact absurd hc hplus
  · next heq => injection heq with hc; exact absurd hc hminus
  · rfl

theorem RowOf.unsigned_append {row : Text} (h : RowOf "0123456789" row) (rest : Text) :
    unsigned (row ++ rest) = row ++ rest := by
  cases row with
  | nil => exact absurd rfl h.1
  | cons c row =>
      have hc := h.isDecimal_of_mem c List.mem_cons_self
      refine unsigned_cons ?_ ?_ (row ++ rest)
      · rintro rfl
        exact absurd hc (by decide)
      · rintro rfl
        exact absurd hc (by decide)

/-! ## Decimal notation -/

theorem isExponent_iff {text : Text} : isExponent text = true ↔ IsExponent text := by
  constructor
  · intro h
    cases text with
    | nil => exact .absent
    | cons mark rest =>
        rw [isExponent, Bool.and_eq_true, Bool.or_eq_true, beq_iff_eq, beq_iff_eq] at h
        obtain ⟨sign, hsign, hrest⟩ := exists_isSign rest
        rw [hrest]
        exact .power h.1 hsign ((rowOf_iff isDecimal_iff _).mpr h.2)
  · intro h
    cases h with
    | absent => rfl
    | @power mark sign digits hmark hsign hdigits =>
        have hunsigned : unsigned (sign ++ digits) = digits := by
          have hself := hdigits.unsigned_append []
          rw [List.append_nil] at hself
          exact hsign.unsigned_append hself
        rw [isExponent, Bool.and_eq_true, Bool.or_eq_true, beq_iff_eq, beq_iff_eq, hunsigned]
        exact ⟨hmark, (rowOf_iff isDecimal_iff digits).mp hdigits⟩

/-- No digit could have gone on before an exponent. -/
theorem IsExponent.stops {text : Text} (h : IsExponent text) : Text.Stops isDecimal text := by
  cases h with
  | absent => exact Text.stops_nil isDecimal
  | power hmark _ _ =>
      refine Text.stops_cons ?_ _
      rcases hmark with rfl | rfl
      · decide
      · decide

/-- Decimal notation with a point after the digits that come first. -/
theorem isDecimalNotation_point_iff {text whole rest : Text}
    (hbody : unsigned text = whole ++ '.' :: rest) (hwhole : ∀ c ∈ whole, isDecimal c = true) :
    isDecimalNotation text = true ↔
      (whole ≠ [] ∨ rest.takeWhile isDecimal ≠ []) ∧ IsExponent (rest.dropWhile isDecimal) := by
  have hstops : Text.Stops isDecimal ('.' :: rest) := Text.stops_cons (by decide) rest
  simp [isDecimalNotation, hbody, Text.takeWhile_run hwhole hstops,
    Text.dropWhile_run hwhole hstops, isExponent_iff]

/-- Decimal notation without a point. -/
theorem isDecimalNotation_whole_iff {text whole rest : Text} (hbody : unsigned text = whole ++ rest)
    (hwhole : ∀ c ∈ whole, isDecimal c = true) (hrest : Text.Stops isDecimal rest)
    (hpoint : '.' ∉ rest.head?) :
    isDecimalNotation text = true ↔ whole ≠ [] ∧ IsExponent rest := by
  simp only [isDecimalNotation, hbody, Text.takeWhile_run hwhole hrest,
    Text.dropWhile_run hwhole hrest]
  split
  · exact absurd rfl hpoint
  · simp [isExponent_iff]

theorem IsExponent.point_not_mem_head? {text : Text} (h : IsExponent text) : '.' ∉ text.head? := by
  cases h with
  | absent => exact nofun
  | power hmark _ _ =>
      rintro ⟨⟩
      exact absurd hmark (by decide)

theorem isDecimalNotation_of_isDecimal {text : Text} (h : IsDecimal text) :
    isDecimalNotation text = true := by
  obtain @⟨sign, mantissa, exponent, hsign, hmantissa, hexponent⟩ := h
  cases hmantissa with
  | whole hdigits =>
      have hbody := hsign.unsigned_append (hdigits.unsigned_append exponent)
      rw [isDecimalNotation_whole_iff hbody hdigits.isDecimal_of_mem hexponent.stops
        hexponent.point_not_mem_head?]
      exact ⟨hdigits.1, hexponent⟩
  | @point digits fraction hdigits hfraction =>
      have hbody := hsign.unsigned_append (hdigits.unsigned_append ('.' :: (fraction ++ exponent)))
      rw [List.append_assoc, List.cons_append,
        isDecimalNotation_point_iff hbody hdigits.isDecimal_of_mem,
        Text.dropWhile_run (fun c hc => isDecimal_iff.mpr (hfraction c hc)) hexponent.stops]
      exact ⟨Or.inl hdigits.1, hexponent⟩
  | @fraction digits hdigits =>
      have hbody : unsigned (sign ++ '.' :: (digits ++ exponent)) = [] ++ _ :=
        hsign.unsigned_append rfl
      rw [List.cons_append, isDecimalNotation_point_iff hbody nofun,
        Text.takeWhile_run hdigits.isDecimal_of_mem hexponent.stops,
        Text.dropWhile_run hdigits.isDecimal_of_mem hexponent.stops]
      exact ⟨Or.inr hdigits.1, hexponent⟩

theorem isDecimal_of_isDecimalNotation {text : Text} (h : isDecimalNotation text = true) :
    IsDecimal text := by
  obtain ⟨sign, hsign, htext⟩ := exists_isSign text
  obtain ⟨whole, rest, hbody, hwhole, hrest⟩ := Text.exists_run isDecimal (unsigned text)
  have hdigits : whole ≠ [] → RowOf "0123456789" whole :=
    fun hne => ⟨hne, fun c hc => isDecimal_iff.mp (hwhole c hc)⟩
  rw [htext, hbody]
  by_cases hpoint : '.' ∈ rest.head?
  · obtain ⟨rest, rfl⟩ := List.head?_eq_some_iff.mp hpoint
    obtain ⟨fraction, exponent, rfl, hfraction, hstops⟩ := Text.exists_run isDecimal rest
    rw [isDecimalNotation_point_iff hbody hwhole, Text.takeWhile_run hfraction hstops,
      Text.dropWhile_run hfraction hstops] at h
    obtain ⟨hne, hexponent⟩ := h
    have hdecimals : ∀ c ∈ fraction, c ∈ "0123456789".toList :=
      fun c hc => isDecimal_iff.mp (hfraction c hc)
    have hmantissa : IsMantissa (whole ++ '.' :: fraction) := by
      rcases eq_or_ne whole [] with rfl | hsome
      · exact .fraction ⟨hne.resolve_left (fun h => h rfl), hdecimals⟩
      · exact .point (hdigits hsome) hdecimals
    have hall := IsDecimal.mk hsign hmantissa hexponent
    rwa [List.append_assoc, List.cons_append] at hall
  · rw [isDecimalNotation_whole_iff hbody hwhole hrest hpoint] at h
    exact .mk hsign (.whole (hdigits h.1)) h.2

theorem isDecimalNotation_iff {text : Text} : isDecimalNotation text = true ↔ IsDecimal text :=
  ⟨isDecimal_of_isDecimalNotation, isDecimalNotation_of_isDecimal⟩

/-! ## Literals of other bases -/

theorem radixLiteral?_eq_some_true_iff {text : Text} :
    radixLiteral? text = some true ↔ IsLiteral text := by
  have hhexadecimal : AreDigits 16 "0123456789abcdefABCDEF" := by decide +kernel
  have hoctal : AreDigits 8 "01234567" := by decide +kernel
  have hbinary : AreDigits 2 "01" := by decide +kernel
  constructor
  · intro h
    rw [radixLiteral?.eq_def] at h
    split at h
    · next mark digits =>
        obtain ⟨base, hbase, hdigits⟩ := Option.map_eq_some_iff.mp h
        split at hbase
        · next hmark =>
            cases hbase
            exact .hexadecimal hmark ((hhexadecimal.rowOf_iff digits).mpr hdigits)
        · split at hbase
          · next hmark =>
              cases hbase
              exact .octal hmark ((hoctal.rowOf_iff digits).mpr hdigits)
          · split at hbase
            · next hmark =>
                cases hbase
                exact .binary hmark ((hbinary.rowOf_iff digits).mpr hdigits)
            · cases hbase
    · cases h
  · intro h
    cases h with
    | hexadecimal hmark hdigits =>
        have hread := (hhexadecimal.rowOf_iff _).mp hdigits
        rcases hmark with rfl | rfl
        · exact congrArg some hread
        · exact congrArg some hread
    | octal hmark hdigits =>
        have hread := (hoctal.rowOf_iff _).mp hdigits
        rcases hmark with rfl | rfl
        · exact congrArg some hread
        · exact congrArg some hread
    | binary hmark hdigits =>
        have hread := (hbinary.rowOf_iff _).mp hdigits
        rcases hmark with rfl | rfl
        · exact congrArg some hread
        · exact congrArg some hread

/-- The characters that decimal notation may have. -/
def notationChars : Text := "0123456789.eE+-".toList

theorem digits_subset {row : Text} (h : ∀ c ∈ row, c ∈ "0123456789".toList) :
    row ⊆ notationChars := by
  have hdigits : "0123456789".toList ⊆ notationChars := by decide
  exact fun c hc => hdigits (h c hc)

theorem IsSign.subset {sign : Text} (h : IsSign sign) : sign ⊆ notationChars := by
  cases h with
  | absent => exact List.nil_subset _
  | plus => decide
  | minus => decide

theorem IsMantissa.subset {mantissa : Text} (h : IsMantissa mantissa) :
    mantissa ⊆ notationChars := by
  have hpoint : '.' ∈ notationChars := by decide
  cases h with
  | whole hdigits => exact digits_subset hdigits.2
  | point hdigits hfraction =>
      exact List.append_subset.mpr ⟨digits_subset hdigits.2,
        List.cons_subset.mpr ⟨hpoint, digits_subset hfraction⟩⟩
  | fraction hdigits => exact List.cons_subset.mpr ⟨hpoint, digits_subset hdigits.2⟩

theorem IsExponent.subset {exponent : Text} (h : IsExponent exponent) :
    exponent ⊆ notationChars := by
  cases h with
  | absent => exact List.nil_subset _
  | @power mark sign digits hmark hsign hdigits =>
      have hmem : mark ∈ notationChars := by
        rcases hmark with rfl | rfl
        · decide
        · decide
      exact List.cons_subset.mpr
        ⟨hmem, List.append_subset.mpr ⟨hsign.subset, digits_subset hdigits.2⟩⟩

theorem IsDecimal.subset {text : Text} (h : IsDecimal text) : text ⊆ notationChars := by
  obtain ⟨hsign, hmantissa, hexponent⟩ := h
  exact List.append_subset.mpr ⟨hsign.subset,
    List.append_subset.mpr ⟨hmantissa.subset, hexponent.subset⟩⟩

/-- No decimal notation starts like a literal of another base. -/
theorem IsDecimal.radixLiteral?_eq_none {text : Text} (h : IsDecimal text) :
    radixLiteral? text = none := by
  rw [radixLiteral?.eq_def]
  split
  · next mark digits =>
      -- The early answer is for texts with one of these letters here, and this is none.
      have hmark : mark ∈ notationChars := h.subset (by simp)
      have hother : notationChars.all (fun c => decide (¬ (c = 'x' ∨ c = 'X') ∧
          ¬ (c = 'o' ∨ c = 'O') ∧ ¬ (c = 'b' ∨ c = 'B'))) = true := by decide
      obtain ⟨hx, ho, hb⟩ := of_decide_eq_true (List.all_eq_true.mp hother mark hmark)
      rw [if_neg hx, if_neg ho, if_neg hb]
      rfl
  · rfl

/-! ## Numbers -/

theorem isNumber_iff {key : Text} : isNumber key = true ↔ IsNumeral key.trim := by
  rw [isNumber]
  generalize key.trim = text
  constructor
  · intro h
    split at h
    · next hempty =>
        rw [List.isEmpty_iff.mp hempty]
        exact .blank
    · split at h
      · next hinfinity =>
          obtain ⟨sign, hsign, htext⟩ := exists_isSign text
          rw [htext, hinfinity]
          exact .infinity hsign
      · split at h
        · next hliteral => exact .literal (radixLiteral?_eq_some_true_iff.mp (h ▸ hliteral))
        · exact .decimal (isDecimalNotation_iff.mp h)
  · intro h
    split
    · rfl
    · next hempty =>
        split
        · rfl
        · next hinfinity =>
            cases h with
            | blank => exact absurd rfl hempty
            | infinity hsign =>
                have hself : unsigned "Infinity".toList = "Infinity".toList := by decide
                exact absurd (hsign.unsigned_append hself) hinfinity
            | literal hliteral => rw [radixLiteral?_eq_some_true_iff.mpr hliteral]
            | decimal hdecimal =>
                rw [hdecimal.radixLiteral?_eq_none]
                exact isDecimalNotation_iff.mpr hdecimal

example : ["nan", "inf", "e", "-", ".", "0x", "+0x1", "1_000", "+-1", "1 2", "١"].all
    (fun key => !isNumber key.toList) = true := by decide

/-! ## Decimal notation told by a reader of numbers -/

/-- What readers of floating-point numbers accept: decimal notation, and words with letters in
either case. -/
inductive IsFloat : Text → Prop
  | decimal {text : Text} (hdecimal : IsDecimal text) : IsFloat text
  | word {sign word : Text} (hsign : IsSign sign)
      (hword : word.map Char.toLower ∈ ["inf".toList, "infinity".toList, "nan".toList]) :
      IsFloat (sign ++ word)

/-- `isNumber` with decimal notation told in two steps: the text after a sign has no other
characters than notation may have, and a reader of floating-point numbers accepts the whole. -/
def isNumberBy (isFloat : Text → Bool) (key : Text) : Bool :=
  let trimmed := key.trim
  if trimmed.isEmpty then true
  else if unsigned trimmed = "Infinity".toList then true
  else match radixLiteral? trimmed with
    | some valid => valid
    | none => (unsigned trimmed).all notationChars.contains && isFloat trimmed

theorem unsigned_of_word {word : Text}
    (hword : word.map Char.toLower ∈ ["inf".toList, "infinity".toList, "nan".toList]) :
    unsigned word = word ∧ ¬ word ⊆ notationChars := by
  cases word with
  | nil => exact absurd hword (by decide)
  | cons c rest =>
      have hhead : some c.toLower ∈ [some 'i', some 'i', some 'n'] :=
        List.mem_map_of_mem (f := List.head?) hword
      have hfirst : c.toLower = 'i' ∨ c.toLower = 'n' := by simpa using hhead
      have hother : notationChars.all (fun c => decide (¬ (c.toLower = 'i' ∨ c.toLower = 'n'))) =
          true := by decide
      have hnotation : c ∉ notationChars := fun hc =>
        of_decide_eq_true (List.all_eq_true.mp hother c hc) hfirst
      refine ⟨unsigned_cons ?_ ?_ rest, fun hsub => hnotation (hsub List.mem_cons_self)⟩
      · rintro rfl
        exact hnotation (by decide)
      · rintro rfl
        exact hnotation (by decide)

section

variable {isFloat : Text → Bool} (hfloat : ∀ text, isFloat text = true ↔ IsFloat text)

include hfloat

theorem filtered_isFloat_iff (text : Text) :
    ((unsigned text).all notationChars.contains && isFloat text) = true ↔ IsDecimal text := by
  rw [Bool.and_eq_true, List.all_eq_true, hfloat]
  constructor
  · rintro ⟨hchars, hdecimal | @⟨sign, word, hsign, hword⟩⟩
    · exact hdecimal
    · obtain ⟨hunsigned, hnot⟩ := unsigned_of_word hword
      rw [hsign.unsigned_append hunsigned] at hchars
      exact absurd (fun c hc => List.contains_iff_mem.mp (hchars c hc)) hnot
  · intro hdecimal
    refine ⟨fun c hc => List.contains_iff_mem.mpr (hdecimal.subset ?_), .decimal hdecimal⟩
    obtain ⟨sign, _, htext⟩ := exists_isSign text
    rw [htext]
    exact List.mem_append_right sign hc

theorem isNumberBy_eq (key : Text) : isNumberBy isFloat key = isNumber key := by
  have hsame : ((unsigned key.trim).all notationChars.contains && isFloat key.trim) =
      isDecimalNotation key.trim := by
    rw [Bool.eq_iff_iff, filtered_isFloat_iff hfloat, isDecimalNotation_iff]
  exact congrArg (fun decimal : Bool =>
    if key.trim.isEmpty then true
    else if unsigned key.trim = "Infinity".toList then true
    else match radixLiteral? key.trim with
      | some valid => valid
      | none => decimal) hsame

end

/-- A reader of floating-point numbers. -/
def readsFloat (text : Text) : Bool :=
  isDecimalNotation text ||
    ["inf".toList, "infinity".toList, "nan".toList].contains ((unsigned text).map Char.toLower)

theorem readsFloat_iff (text : Text) : readsFloat text = true ↔ IsFloat text := by
  rw [readsFloat, Bool.or_eq_true, isDecimalNotation_iff, List.contains_iff_mem]
  constructor
  · rintro (hdecimal | hword)
    · exact .decimal hdecimal
    · obtain ⟨sign, hsign, htext⟩ := exists_isSign text
      rw [htext]
      exact .word hsign hword
  · rintro (hdecimal | ⟨hsign, hword⟩)
    · exact Or.inl hdecimal
    · rw [hsign.unsigned_append (unsigned_of_word hword).1]
      exact Or.inr hword

end Numeral

namespace Segment

theorem asKey_key_eq_none_iff {name : Text} :
    (key name).asKey = none ↔ Numeral.IsNumeral name.trim := by
  rw [asKey, ← Numeral.isNumber_iff]
  split
  · next h => exact iff_of_true rfl h
  · next h => exact iff_of_false nofun h

theorem asKey_key_eq_some_iff {name : Text} :
    (key name).asKey = some name ↔ ¬ Numeral.IsNumeral name.trim := by
  rw [asKey, ← Numeral.isNumber_iff]
  split
  · next h => exact iff_of_false nofun (fun hnot => hnot h)
  · next h => exact iff_of_true rfl h

/-- The keys that name nothing are those that are in the grammar of numbers once the white space
at their ends is taken off, and every other key names itself. It makes no difference which reader
of floating-point numbers is asked about decimal notation. -/
theorem asKey_key_spec {isFloat : Text → Bool}
    (hfloat : ∀ text, isFloat text = true ↔ Numeral.IsFloat text) (name : Text) :
    ((key name).asKey = none ↔ Numeral.IsNumeral name.trim) ∧
      ((key name).asKey = some name ↔ ¬ Numeral.IsNumeral name.trim) ∧
      ((key name).asKey = none ↔ Numeral.isNumberBy isFloat name = true) ∧
      (∃ front back, name = front ++ (name.trim ++ back) ∧
        (∀ c ∈ front, isBlank c = true) ∧ ∀ c ∈ back, isBlank c = true) ∧
      ∀ c, c ∈ name.trim.head? ∨ c ∈ name.trim.getLast? → isBlank c = false := by
  refine ⟨asKey_key_eq_none_iff, asKey_key_eq_some_iff, ?_, Text.exists_eq_append_trim name, ?_⟩
  · rw [Numeral.isNumberBy_eq hfloat, Numeral.isNumber_iff]
    exact asKey_key_eq_none_iff
  · rintro c (hfirst | hlast)
    · exact Text.not_blank_of_mem_head?_trim hfirst
    · exact Text.not_blank_of_mem_getLast?_trim hlast

/-- A number without digits before its point, between white space that is not ASCII, and a word
that readers of floating-point numbers accept. -/
theorem asKey_key_of_exponent_and_word :
    let number : Text := "\u00a0-.5E+07\u3000".toList
    let word : Text := "-NaN".toList
    (key number).asKey = none ∧ Numeral.readsFloat word = true ∧ (key word).asKey = some word := by
  intro number word
  have hrow : Numeral.RowOf "0123456789" "07".toList :=
    (Numeral.rowOf_iff Numeral.isDecimal_iff _).mpr (by decide)
  have hhalf : Numeral.RowOf "0123456789" "5".toList :=
    (Numeral.rowOf_iff Numeral.isDecimal_iff _).mpr (by decide)
  have hnumeral : Numeral.IsNumeral number.trim :=
    .decimal (.mk .minus (.fraction hhalf) (.power (Or.inr rfl) .plus hrow))
  have hword : Numeral.isNumberBy Numeral.readsFloat word = false := by decide
  obtain ⟨hnone, _⟩ := asKey_key_spec Numeral.readsFloat_iff number
  obtain ⟨hnot, hsome, hby, _⟩ := asKey_key_spec Numeral.readsFloat_iff word
  refine ⟨hnone.mpr hnumeral, by decide, hsome.mpr fun hin => ?_⟩
  rw [hby.mp (hnot.mpr hin)] at hword
  cases hword

end Segment

end ApiLint
