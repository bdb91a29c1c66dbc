import Mathlib.Data.Set.Function
import ApiLint.Proofs.Path
import ApiLint.Report.Tree

/-!
# Displayed paths that can be read back

Displaying a path puts a slash before each step and escapes nothing, while reading a pointer cuts at
every slash, undoes escapes and takes numbers for indices. A displayed path is therefore read step
by step, but a step may fall apart or come out as another one. `Segment.Survives` says which steps
do neither; a path is read back if and only if all its steps are such (`ofPointer_display_iff`).

No two paths of such steps are displayed alike. In the drawing of an error one pair of them is
shown alike all the same: the root of a document, which is drawn as a slash, and the member of the
root whose name is empty.
-/

namespace ApiLint

namespace Text

variable {first second new : Char} {text : Text}

theorem pair_infix_cons_cons_iff {c d : Char} :
    [first, second] <:+: c :: d :: text ↔
      (c = first ∧ d = second) ∨ [first, second] <:+: d :: text := by
  rw [List.infix_cons_iff, List.cons_prefix_cons, List.cons_prefix_cons]
  simp [eq_comm]

theorem replacePair_of_not_infix (h : ¬ [first, second] <:+: text) :
    replacePair first second new text = text := by
  induction text using replacePair.induct first second with
  | case1 => rfl
  | case2 c => rfl
  | case3 c d rest hpair ih => exact absurd (pair_infix_cons_cons_iff.mpr (Or.inl hpair)) h
  | case4 c d rest hpair ih =>
      have hrest : ¬ [first, second] <:+: d :: rest :=
        fun hrest => h (pair_infix_cons_cons_iff.mpr (Or.inr hrest))
      rw [replacePair, if_neg hpair, ih hrest]

theorem length_replacePair_le (first second new : Char) (text : Text) :
    (replacePair first second new text).length ≤ text.length := by
  induction text using replacePair.induct first second with
  | case1 => exact Nat.le_refl _
  | case2 c => exact Nat.le_refl _
  | case3 c d rest hpair ih =>
      rw [replacePair, if_pos hpair]
      simp only [List.length_cons]
      omega
  | case4 c d rest hpair ih =>
      rw [replacePair, if_neg hpair]
      simp only [List.length_cons] at ih ⊢
      omega

theorem length_replacePair_lt (h : [first, second] <:+: text) (new : Char) :
    (replacePair first second new text).length < text.length := by
  induction text using replacePair.induct first second with
  | case1 => simp at h
  | case2 c => exact absurd h.length_le (by simp)
  | case3 c d rest hpair ih =>
      have hle := length_replacePair_le first second new rest
      rw [replacePair, if_pos hpair]
      simp only [List.length_cons]
      omega
  | case4 c d rest hpair ih =>
      have hlt := ih ((pair_infix_cons_cons_iff.mp h).resolve_left hpair)
      rw [replacePair, if_neg hpair]
      simp only [List.length_cons] at hlt ⊢
      omega

end Text

namespace Path

/-- Undoing escapes leaves those steps alone that have none. -/
theorem unescape_eq_self_iff {step : Text} :
    unescape step = step ↔ ¬ ['~', '0'] <:+: step ∧ ¬ ['~', '1'] <:+: step := by
  by_cases hslash : ['~', '1'] <:+: step
  · refine iff_of_false (fun heq => ?_) fun h => h.2 hslash
    have hlt := Text.length_replacePair_lt hslash '/'
    have hle := Text.length_replacePair_le '~' '0' '~' (step.replacePair '~' '1' '/')
    have hlength := congrArg List.length heq
    rw [unescape] at hlength
    omega
  · rw [unescape, Text.replacePair_of_not_infix hslash]
    by_cases htilde : ['~', '0'] <:+: step
    · refine iff_of_false (fun heq => ?_) fun h => h.1 htilde
      have hlt := Text.length_replacePair_lt htilde '~'
      rw [heq] at hlt
      exact Nat.lt_irrefl _ hlt
    · exact iff_of_true (Text.replacePair_of_not_infix htilde) ⟨htilde, hslash⟩

theorem ofPointer_cons_slash (step : Text) :
    ofPointer ('/' :: step) = (Text.split '/' step).map fun piece => .parse (unescape piece) := by
  rw [ofPointer, Text.split_cons_self, List.drop_succ_cons, List.drop_zero]

end Path

namespace Segment

/-- Whether a step can be displayed and read back: an index if it fits in 64 bits, a key if it has
no slash and no escape and does not read as an index. -/
def Survives : Segment → Prop
  | .index n => n < UInt64.size
  | .key name =>
    '/' ∉ name ∧ ¬ ['~', '0'] <:+: name ∧ ¬ ['~', '1'] <:+: name ∧ Numeral.index? name = none

instance (segment : Segment) : Decidable segment.Survives :=
  match segment with
  | .index n => inferInstanceAs (Decidable (n < UInt64.size))
  | .key name => inferInstanceAs (Decidable ('/' ∉ name ∧ ¬ ['~', '0'] <:+: name ∧
      ¬ ['~', '1'] <:+: name ∧ Numeral.index? name = none))

theorem parse_eq_index_iff {raw : Text} {n : Nat} :
    parse raw = .index n ↔ Numeral.index? raw = some n := by
  rw [parse]
  cases Numeral.index? raw <;> simp

theorem parse_eq_key_iff {raw name : Text} :
    parse raw = .key name ↔ raw = name ∧ Numeral.index? raw = none := by
  rw [parse]
  cases Numeral.index? raw <;> simp

theorem parse_toDigits_iff {n : Nat} :
    parse (Nat.toDigits 10 n) = .index n ↔ n < UInt64.size := by
  rw [parse_eq_index_iff, Numeral.index?_eq_some_iff]
  exact ⟨And.left, fun hn => ⟨hn, 0, Or.inr rfl⟩⟩

theorem ofPointer_display_iff {segment : Segment} :
    Path.ofPointer ('/' :: segment.display) = [segment] ↔ segment.Survives := by
  rw [Path.ofPointer_cons_slash]
  cases segment with
  | index n =>
      have hslash : '/' ∉ Nat.toDigits 10 n := Numeral.not_mem_toDigits rfl n
      have htilde : '~' ∉ Nat.toDigits 10 n := Numeral.not_mem_toDigits rfl n
      have hplain : Path.unescape (Nat.toDigits 10 n) = Nat.toDigits 10 n :=
        Path.unescape_eq_self_iff.mpr
          ⟨fun h => htilde (h.subset (by simp)), fun h => htilde (h.subset (by simp))⟩
      rw [display, Text.split_of_not_mem hslash, List.map_singleton, hplain, List.singleton_inj]
      exact parse_toDigits_iff
  | key name =>
      constructor
      · intro h
        obtain ⟨piece, hsplit, hparse⟩ := List.map_eq_singleton_iff.mp h
        obtain ⟨rfl, hslash⟩ := Text.eq_of_split_eq_singleton hsplit
        obtain ⟨hplain, hindex⟩ := parse_eq_key_iff.mp hparse
        obtain ⟨htilde, hescape⟩ := Path.unescape_eq_self_iff.mp hplain
        rw [hplain] at hindex
        exact ⟨hslash, htilde, hescape, hindex⟩
      · rintro ⟨hslash, htilde, hescape, hindex⟩
        have hplain := Path.unescape_eq_self_iff.mpr ⟨htilde, hescape⟩
        rw [display, Text.split_of_not_mem hslash, List.map_singleton, hplain, List.singleton_inj]
        exact parse_eq_key_iff.mpr ⟨rfl, hindex⟩

end Segment

namespace Path

theorem display_cons (segment : Segment) (path : Path) :
    display (segment :: path) = '/' :: segment.display ++ display path :=
  List.flatMap_cons

theorem display_append (front back : Path) :
    display (front ++ back) = display front ++ display back :=
  List.flatMap_append

theorem ofPointer_append_display (pointer : Text) (path : Path) :
    ofPointer (pointer ++ display path) = ofPointer pointer ++ ofPointer (display path) := by
  cases path with
  | nil => rw [show display [] = [] from rfl, List.append_nil, show ofPointer [] = [] from rfl,
      List.append_nil]
  | cons segment path =>
      rw [display_cons, List.cons_append]
      exact ofPointer_append pointer _

/-- A displayed path is read step by step. -/
theorem ofPointer_display_cons (segment : Segment) (path : Path) :
    ofPointer (display (segment :: path)) =
      ofPointer ('/' :: segment.display) ++ ofPointer (display path) := by
  rw [display_cons, ofPointer_append_display]

theorem exists_ofPointer_cons_slash (step : Text) :
    ∃ segment more, ofPointer ('/' :: step) = segment :: more := by
  rw [ofPointer_cons_slash]
  refine List.exists_cons_of_ne_nil fun hnil => ?_
  exact Text.split_ne_nil '/' step (List.map_eq_nil_iff.mp hnil)

/-- Steps may fall apart, but none is lost. -/
theorem length_le_ofPointer_display (path : Path) :
    path.length ≤ (ofPointer (display path)).length := by
  induction path with
  | nil => exact Nat.zero_le _
  | cons segment path ih =>
      obtain ⟨head, more, hread⟩ := exists_ofPointer_cons_slash segment.display
      rw [ofPointer_display_cons, hread, List.length_append, List.length_cons, List.length_cons]
      omega

theorem ofPointer_display_iff {path : Path} :
    ofPointer (display path) = path ↔ ∀ segment ∈ path, segment.Survives := by
  induction path with
  | nil => exact iff_of_true rfl (List.forall_mem_nil _)
  | cons segment path ih =>
      rw [ofPointer_display_cons, List.forall_mem_cons, ← ih, ← Segment.ofPointer_display_iff]
      constructor
      · intro h
        obtain ⟨head, more, hread⟩ := exists_ofPointer_cons_slash segment.display
        rw [hread, List.cons_append, List.cons.injEq] at h
        obtain ⟨rfl, hrest⟩ := h
        -- The other steps are read as no fewer, so none of what was read is left over.
        have hmore : more = [] := by
          have hle := length_le_ofPointer_display path
          have hlength := congrArg List.length hrest
          rw [List.length_append] at hlength
          exact List.eq_nil_of_length_eq_zero (by omega)
        rw [hmore] at hread hrest
        exact ⟨hread, hrest⟩
      · rintro ⟨hsegment, hpath⟩
        rw [hsegment, hpath]
        rfl

theorem display_injOn : Set.InjOn display {path | ∀ segment ∈ path, segment.Survives} := by
  intro first hfirst second hsecond heq
  rw [← ofPointer_display_iff.mpr hfirst, heq, ofPointer_display_iff.mpr hsecond]

/-- An index that fits in 64 bits comes through wherever it stands. -/
theorem ofPointer_display_index {n : Nat} (hn : n < UInt64.size) (front back : Path) :
    ofPointer (display (front ++ .index n :: back)) =
      ofPointer (display front) ++ .index n :: ofPointer (display back) := by
  have hread : ofPointer ('/' :: (Segment.index n).display) = [.index n] :=
    Segment.ofPointer_display_iff.mpr hn
  rw [display_append, ofPointer_append_display, ofPointer_display_cons, hread]
  rfl

theorem display_eq_nil_iff {path : Path} : display path = [] ↔ path = [] := by
  cases path with
  | nil => exact iff_of_true rfl rfl
  | cons segment path => exact iff_of_false nofun nofun

end Path

namespace Detail

theorem toList_shownPath (detail : Detail) :
    detail.shownPath.toList = if detail.path = [] then ['/'] else detail.path.display := by
  rw [shownPath]
  by_cases hpath : detail.path = []
  · rw [hpath]
    rfl
  · have hne : detail.path.display.isEmpty = false := by
      simpa using fun hnil => hpath (Path.display_eq_nil_iff.mp hnil)
    rw [hne, if_neg hpath, if_neg Bool.false_ne_true, String.toList_ofList]

theorem shownPath_eq_of_path_eq_nil {first second : Detail} (hfirst : first.path = [])
    (hne : second.path ≠ []) (hsecond : ∀ segment ∈ second.path, segment.Survives) :
    first.shownPath = second.shownPath ↔ second.path = [.key []] := by
  have hunnamed : ∀ segment ∈ [Segment.key []], segment.Survives := by decide
  rw [← String.toList_inj, toList_shownPath, toList_shownPath, if_pos hfirst, if_neg hne]
  exact eq_comm.trans (Path.display_injOn.eq_iff hsecond hunnamed)

/-- An error shows two different paths alike only if one is the whole document and the other the
member of it whose name is empty. -/
theorem shownPath_eq_iff {first second : Detail} (hne : first.path ≠ second.path)
    (hfirst : ∀ segment ∈ first.path, segment.Survives)
    (hsecond : ∀ segment ∈ second.path, segment.Survives) :
    first.shownPath = second.shownPath ↔
      (first.path = [] ∧ second.path = [.key []]) ∨
        (first.path = [.key []] ∧ second.path = []) := by
  by_cases hroot : first.path = []
  · rw [shownPath_eq_of_path_eq_nil hroot (fun h => hne (hroot.trans h.symm)) hsecond]
    simp [hroot]
  · by_cases hother : second.path = []
    · rw [eq_comm, shownPath_eq_of_path_eq_nil hother hroot hfirst]
      simp [hother]
    · rw [← String.toList_inj, toList_shownPath, toList_shownPath, if_neg hroot, if_neg hother,
        Path.display_injOn.eq_iff hfirst hsecond]
      simp [hroot, hother, hne]

end Detail

namespace Path

/-- The paths that are displayed so that they can be read back are those of surviving steps, and an
index that fits in 64 bits survives beside any others. No two such paths are displayed alike, and
an error shows no two alike but the whole document and the member of it with the empty name. -/
theorem ofPointer_display_spec :
    (∀ path : Path, ofPointer path.display = path ↔ ∀ segment ∈ path, segment.Survives) ∧
      (∀ (front back : Path) (n : Nat), n < UInt64.size →
        ofPointer (display (front ++ .index n :: back)) =
          ofPointer front.display ++ .index n :: ofPointer back.display) ∧
      Set.InjOn display {path | ∀ segment ∈ path, segment.Survives} ∧
      ∀ first second : Detail, first.path ≠ second.path →
        (∀ segment ∈ first.path, segment.Survives) →
        (∀ segment ∈ second.path, segment.Survives) →
          (first.shownPath = second.shownPath ↔
            (first.path = [] ∧ second.path = [.key []]) ∨
              (first.path = [.key []] ∧ second.path = [])) :=
  ⟨fun _ => ofPointer_display_iff, fun front back _ hn => ofPointer_display_index hn front back,
    display_injOn, fun _ _ => Detail.shownPath_eq_iff⟩

/-- Names that come close to an index or to an escape are read back, and an index between two names
that are not. -/
theorem ofPointer_display_of_near_misses :
    let path : Path := [.index 18446744073709551615, .key "18446744073709551616".toList,
      .key "~2~".toList, .key [], .key "-0".toList]
    let front : Path := [.key "a/~01".toList]
    let back : Path := [.key "+7".toList]
    (∀ segment ∈ path, segment.Survives) ∧ ofPointer path.display = path ∧
      ofPointer (display (front ++ .index 7 :: back)) =
        [.key "a".toList, .key "~1".toList, .index 7, .index 7] ∧
      (Detail.single "A" "x" path).shownPath ≠ (Detail.single "A" "x" []).shownPath := by
  intro path front back
  have hsurvives : ∀ segment ∈ path, segment.Survives := by decide +kernel
  obtain ⟨hread, hindex, _, hshown⟩ := ofPointer_display_spec
  refine ⟨hsurvives, (hread path).mpr hsurvives, hindex front back 7 (by decide), fun heq => ?_⟩
  have hpair := (hshown (.single "A" "x" path) (.single "A" "x" []) (by decide) hsurvives
    (List.forall_mem_nil _)).mp heq
  exact absurd hpair (by decide)

/-- The whole document and the member with the empty name are different paths that can be read
back, and an error shows both as a slash. -/
theorem shownPath_of_document_and_unnamed :
    let whole : Path := []
    let unnamed : Path := [.key []]
    whole ≠ unnamed ∧ (∀ segment ∈ whole, segment.Survives) ∧
      (∀ segment ∈ unnamed, segment.Survives) ∧
      (ValidationError.invalid "bad"
        [.single "A" "x" whole, .single "A" "x" unnamed]).outline.draw =
        "bad\n├─ [A] x at /\n└─ [A] x at /\n" := by
  decide +kernel

end Path

end ApiLint
