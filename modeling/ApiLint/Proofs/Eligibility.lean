import ApiLint.Eligibility
import ApiLint.Proofs.Text.Run

/-!
# Which texts are worth checking

A text is eligible exactly if a version entry stands in it somewhere (`isEligible_iff`). An entry is
made of parts, some of which may be empty or of any length, and the reader takes each part as long
as it gets and never goes back. It need not: no part can start with a character that the part
before it could have gone on with, so there is only one way to cut an entry into its parts, and the
reader's way is that one.

Since an entry is longer than any text that is turned away for being short, the length rule turns
nothing away on its own.
-/

namespace ApiLint

/-- A version entry in its parts: the key with or without a quote that closes it, a colon between
white space, and two numbers in quotes. -/
structure VersionEntry where
  closing : Text
  before : Text
  after : Text
  opening : Char
  major : Text
  minor : Text
  ending : Char
  closing_eq : closing = [] ∨ closing = ['"']
  before_blank : ∀ c ∈ before, isBlank c = true
  after_blank : ∀ c ∈ after, isBlank c = true
  opening_eq : opening = '"' ∨ opening = '\''
  major_ne_nil : major ≠ []
  major_digits : ∀ c ∈ major, isDecimalDigit c = true
  minor_ne_nil : minor ≠ []
  minor_digits : ∀ c ∈ minor, isDecimalDigit c = true
  ending_eq : ending = '"' ∨ ending = '\''

namespace VersionEntry

/-- The entry as it is written. -/
def text (entry : VersionEntry) : Text :=
  "swagger".toList ++ (entry.closing ++ (entry.before ++ ':' :: (entry.after ++
    entry.opening :: (entry.major ++ '.' :: (entry.minor ++ [entry.ending])))))

theorem length_text (entry : VersionEntry) :
    entry.text.length = 7 + entry.closing.length + entry.before.length + 1 + entry.after.length +
      1 + entry.major.length + 1 + entry.minor.length + 1 := by
  unfold text
  simp only [List.length_append, List.length_cons, List.length_nil, String.reduceToList]
  omega

theorem shortest_lt_length (entry : VersionEntry) : Eligibility.shortest < entry.text.length := by
  have hmajor := List.length_pos_iff.mpr entry.major_ne_nil
  have hminor := List.length_pos_iff.mpr entry.minor_ne_nil
  rw [length_text, Eligibility.shortest]
  omega

end VersionEntry

namespace Eligibility

/-! ## Parts of an entry -/

theorem afterChar?_eq_some_iff {wanted : Char} {text rest : Text} :
    afterChar? wanted text = some rest ↔ text = wanted :: rest := by
  cases text with
  | nil => simp [afterChar?]
  | cons c text =>
      rw [afterChar?, List.cons.injEq]
      split
      · next hc => simp [hc]
      · next hc => simp [hc]

theorem afterQuote?_eq_some_iff {text rest : Text} :
    afterQuote? text = some rest ↔
      ∃ quote, (quote = '"' ∨ quote = '\'') ∧ text = quote :: rest := by
  constructor
  · intro h
    rw [afterQuote?.eq_def] at h
    split at h
    · injection h with h
      exact ⟨_, Or.inl rfl, by rw [h]⟩
    · injection h with h
      exact ⟨_, Or.inr rfl, by rw [h]⟩
    · cases h
  · rintro ⟨quote, rfl | rfl, rfl⟩
    · rfl
    · rfl

theorem afterDigits?_eq_some_iff {text rest : Text} :
    afterDigits? text = some rest ↔
      Text.Stops isDecimalDigit rest ∧ ∃ digits, digits ≠ [] ∧
        (∀ c ∈ digits, isDecimalDigit c = true) ∧ text = digits ++ rest := by
  constructor
  · intro h
    cases text with
    | nil => cases h
    | cons c text =>
        rw [afterDigits?] at h
        split at h
        · next hc =>
            injection h with h
            obtain ⟨hrest, digits, hdigits, rfl⟩ := Text.dropWhile_eq_iff.mp h
            exact ⟨hrest, c :: digits, List.cons_ne_nil c digits,
              List.forall_mem_cons.mpr ⟨hc, hdigits⟩, rfl⟩
        · cases h
  · rintro ⟨hrest, digits, hne, hdigits, rfl⟩
    cases digits with
    | nil => exact absurd rfl hne
    | cons c digits =>
        obtain ⟨hc, hdigits⟩ := List.forall_mem_cons.mp hdigits
        rw [List.cons_append, afterDigits?, if_pos hc, Text.dropWhile_run hdigits hrest]

theorem exists_closing (text : Text) :
    ∃ closing, (closing = [] ∨ closing = ['"']) ∧ text = closing ++ afterOptionalQuote text := by
  rw [afterOptionalQuote.eq_def]
  split
  · exact ⟨_, Or.inr rfl, rfl⟩
  · exact ⟨_, Or.inl rfl, rfl⟩

/-- White space and a colon start with no quote that could have closed the key. -/
theorem afterOptionalQuote_append {closing before : Text}
    (hclosing : closing = [] ∨ closing = ['"']) (hbefore : ∀ c ∈ before, isBlank c = true)
    (rest : Text) :
    afterOptionalQuote (closing ++ (before ++ ':' :: rest)) = before ++ ':' :: rest := by
  rcases hclosing with rfl | rfl
  · rw [List.nil_append, afterOptionalQuote.eq_def]
    split
    · next heq =>
        cases before with
        | nil =>
            injection heq with hc
            exact absurd hc (by decide)
        | cons c before =>
            injection heq with hc
            exact absurd (hc ▸ hbefore c List.mem_cons_self) (by decide)
    · rfl
  · rfl

theorem stops_of_quote {p : Char → Bool} (hdouble : p '"' = false) (hsingle : p '\'' = false)
    {quote : Char} (hquote : quote = '"' ∨ quote = '\'') (rest : Text) :
    Text.Stops p (quote :: rest) := by
  rcases hquote with rfl | rfl
  · exact Text.stops_cons hdouble rest
  · exact Text.stops_cons hsingle rest

/-! ## Entries -/

/-- What is read as an entry starts with one. -/
theorem exists_prefix_of_startsWithVersion {text : Text} (h : startsWithVersion text = true) :
    ∃ entry : VersionEntry, entry.text <+: text := by
  obtain ⟨back, h⟩ := Option.isSome_iff_exists.mp h
  simp only [Option.bind_eq_bind, Option.bind_eq_some_iff] at h
  obtain ⟨keyed, hkey, valued, hcolon, opened, hopen, pointed, hmajor, halved, hpoint, closed,
    hminor, hclose⟩ := h
  obtain ⟨closing, hclosing, hkeyed⟩ := exists_closing keyed
  obtain ⟨_, before, hbefore, hquoted⟩ :=
    Text.dropWhile_eq_iff.mp (afterChar?_eq_some_iff.mp hcolon)
  obtain ⟨opening, hopening, hdropped⟩ := afterQuote?_eq_some_iff.mp hopen
  obtain ⟨_, after, hafter, hvalued⟩ := Text.dropWhile_eq_iff.mp hdropped
  obtain ⟨_, major, hmajorNe, hmajorDigits, hopened⟩ := afterDigits?_eq_some_iff.mp hmajor
  obtain ⟨_, minor, hminorNe, hminorDigits, hhalved⟩ := afterDigits?_eq_some_iff.mp hminor
  obtain ⟨ending, hending, hclosed⟩ := afterQuote?_eq_some_iff.mp hclose
  refine ⟨⟨closing, before, after, opening, major, minor, ending, hclosing, hbefore, hafter,
    hopening, hmajorNe, hmajorDigits, hminorNe, hminorDigits, hending⟩, back, ?_⟩
  rw [Text.after?_eq_some_iff.mp hkey, hkeyed, hquoted, hvalued, hopened,
    afterChar?_eq_some_iff.mp hpoint, hhalved, hclosed]
  unfold VersionEntry.text
  simp only [List.append_assoc, List.cons_append, List.nil_append]

/-- What starts with an entry is read as one. -/
theorem startsWithVersion_text (entry : VersionEntry) (back : Text) :
    startsWithVersion (entry.text ++ back) = true := by
  obtain ⟨closing, before, after, opening, major, minor, ending, hclosing, hbefore, hafter,
    hopening, hmajorNe, hmajorDigits, hminorNe, hminorDigits, hending⟩ := entry
  -- Each part is read off, whatever follows it.
  have hkey (rest : Text) : Text.after? "swagger".toList ("swagger".toList ++ rest) = some rest :=
    Text.after?_eq_some_iff.mpr rfl
  have hcolon (rest : Text) :
      afterChar? ':' ((afterOptionalQuote (closing ++ (before ++ ':' :: rest))).dropWhile isBlank) =
        some rest := by
    rw [afterOptionalQuote_append hclosing hbefore,
      Text.dropWhile_run hbefore (Text.stops_cons (by decide) rest)]
    exact afterChar?_eq_some_iff.mpr rfl
  have hopen (rest : Text) :
      afterQuote? ((after ++ opening :: rest).dropWhile isBlank) = some rest := by
    rw [Text.dropWhile_run hafter (stops_of_quote (by decide) (by decide) hopening rest)]
    exact afterQuote?_eq_some_iff.mpr ⟨opening, hopening, rfl⟩
  have hmajor (rest : Text) : afterDigits? (major ++ '.' :: rest) = some ('.' :: rest) :=
    afterDigits?_eq_some_iff.mpr
      ⟨Text.stops_cons (by decide) rest, major, hmajorNe, hmajorDigits, rfl⟩
  have hpoint (rest : Text) : afterChar? '.' ('.' :: rest) = some rest :=
    afterChar?_eq_some_iff.mpr rfl
  have hminor : afterDigits? (minor ++ ending :: back) = some (ending :: back) :=
    afterDigits?_eq_some_iff.mpr ⟨stops_of_quote (by decide) (by decide) hending back, minor,
      hminorNe, hminorDigits, rfl⟩
  have hclose : afterQuote? (ending :: back) = some back :=
    afterQuote?_eq_some_iff.mpr ⟨ending, hending, rfl⟩
  unfold startsWithVersion VersionEntry.text
  -- What the key is made of plays no part any more.
  generalize "swagger".toList = swagger at hkey ⊢
  simp only [List.append_assoc, List.cons_append, List.nil_append, hkey, hcolon, hopen, hmajor,
    hpoint, hminor, hclose, Option.bind_eq_bind, Option.bind_some, Option.isSome_some]

theorem startsWithVersion_iff {text : Text} :
    startsWithVersion text = true ↔ ∃ entry : VersionEntry, entry.text <+: text := by
  constructor
  · exact exists_prefix_of_startsWithVersion
  · rintro ⟨entry, back, rfl⟩
    exact startsWithVersion_text entry back

theorem hasVersion_iff {text : Text} :
    hasVersion text = true ↔ ∃ entry : VersionEntry, entry.text <:+: text := by
  induction text with
  | nil =>
      refine iff_of_false nofun ?_
      rintro ⟨entry, hinfix⟩
      exact Nat.not_lt_zero _ (entry.shortest_lt_length.trans_le hinfix.length_le)
  | cons c text ih =>
      rw [hasVersion, Bool.or_eq_true, startsWithVersion_iff, ih, ← exists_or]
      exact exists_congr fun entry => List.infix_cons_iff.symm

/-- A text with an entry is never turned away for being short. -/
theorem shortest_lt_of_hasVersion {text : Text} (h : hasVersion text = true) :
    shortest < text.length := by
  obtain ⟨entry, hinfix⟩ := hasVersion_iff.mp h
  exact entry.shortest_lt_length.trans_le hinfix.length_le

end Eligibility

namespace Text

theorem isEligible_eq_hasVersion (text : Text) :
    text.isEligible = Eligibility.hasVersion text := by
  cases h : Eligibility.hasVersion text with
  | false => rw [isEligible, h, Bool.and_false]
  | true =>
      rw [isEligible, h, Bool.and_true]
      exact decide_eq_true (Eligibility.shortest_lt_of_hasVersion h)

theorem isEligible_iff {text : Text} :
    text.isEligible = true ↔ ∃ entry : VersionEntry, entry.text <:+: text := by
  rw [isEligible_eq_hasVersion, Eligibility.hasVersion_iff]

theorem isEligible_append {text : Text} (h : text.isEligible = true) (before after : Text) :
    (before ++ text ++ after).isEligible = true := by
  obtain ⟨entry, hinfix⟩ := isEligible_iff.mp h
  exact isEligible_iff.mpr ⟨entry, hinfix.trans (List.infix_append before text after)⟩

/-- A text is eligible exactly if a version entry stands in it, whatever surrounds it. A quote
before the entry may be counted in or not, and the length of the text plays no part. -/
theorem isEligible_spec (text : Text) :
    (text.isEligible = true ↔ ∃ entry : VersionEntry, entry.text <:+: text) ∧
      (text.isEligible = true ↔ ∃ quote : Text, (quote = [] ∨ quote = ['"']) ∧
        ∃ entry : VersionEntry, quote ++ entry.text <:+: text) ∧
      text.isEligible = Eligibility.hasVersion text ∧
      ∀ before after : Text, text.isEligible = true →
        isEligible (before ++ text ++ after) = true := by
  refine ⟨isEligible_iff, ?_, isEligible_eq_hasVersion text,
    fun before after h => isEligible_append h before after⟩
  rw [isEligible_iff]
  constructor
  · rintro ⟨entry, hinfix⟩
    exact ⟨[], Or.inl rfl, entry, hinfix⟩
  · rintro ⟨quote, _, entry, hinfix⟩
    exact ⟨entry, (List.suffix_append quote entry.text).isInfix.trans hinfix⟩

/-- A key without a version, and then an entry with white space and a digit that are not ASCII. -/
theorem isEligible_after_false_start :
    let text : Text := "swagger: 2.0 swagger\"\u3000:\n\'٢.0\"".toList
    text.isEligible = true ∧ isEligible ("\x7b\"".toList ++ text ++ "\x7d".toList) = true := by
  intro text
  obtain ⟨_, _, hlength, hinside⟩ := isEligible_spec text
  have heligible : text.isEligible = true := hlength.trans (by decide)
  exact ⟨heligible, hinside _ _ heligible⟩

end Text

end ApiLint
