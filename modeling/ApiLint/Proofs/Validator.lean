import Mathlib
import ApiLint.Validator
import ApiLint.Proofs.Path

/-!
# What a verdict looks like

Whatever a schema finds in a document, the verdict has one of three shapes: the document cannot
be read, it is accepted, or it is rejected with a detail for each finding and a line of the
message for each detail (`Schema.verdictOn_shape`). Nothing is assumed of the check but that its
places are pointers: `check` there is any function from values to outcomes, and a source of
schemas is one of them.

Those who place the details rely on their shape (`Detail.Sound`). A detail with alternatives
has some, they have none themselves, and each is about the part of the document that the detail
is about or something inside it. The last holds because alternatives are picked by the text of
their pointers, and a text that goes on after a slash is read as a longer path
(`Path.ofPointer_append`).
-/

namespace ApiLint

/-- The details that a verdict has: one error, or a choice with the errors of its alternatives,
which lie where the choice does or further inside. -/
inductive Detail.Sound : Detail → Prop where
  | single (code message : String) (path : Path) : Sound (.single code message path)
  | oneOf (message : String) (path : Path) {inner : List Detail} (nonempty : inner ≠ [])
    (inside : ∀ entry ∈ inner, ∃ code message more, entry = .single code message (path ++ more)) :
    Sound (.oneOf choiceCode message path inner)

namespace Schema

theorem leadsInside_iff {outer pointer : Text} :
    leadsInside outer pointer = true ↔ ∃ rest, pointer = outer ++ '/' :: rest := by
  rw [leadsInside, Option.isSome_iff_exists]
  simp only [Text.after?_eq_some_iff, List.append_assoc, List.singleton_append]

/-- An alternative is about the part of the document that was asked for, or something inside. -/
theorem exists_path_append_of_mem_alternativesOf {location target : Pointer}
    {units : List OutputUnit} {unit : OutputUnit}
    (h : unit ∈ alternativesOf location target units) :
    ∃ more, Path.ofPointer unit.target.render = Path.ofPointer target.render ++ more := by
  obtain ⟨_, hpicked⟩ := List.mem_filter.mp h
  rw [Bool.and_eq_true, Bool.or_eq_true, beq_iff_eq] at hpicked
  rcases hpicked.2 with hsame | hinside
  · exact ⟨[], by rw [hsame, List.append_nil]⟩
  · obtain ⟨rest, hrest⟩ := leadsInside_iff.mp hinside
    exact ⟨_, by rw [hrest, Path.ofPointer_append]⟩

namespace Finding

/-- The details a finding can have: that of a choice with alternatives, or a single one. -/
theorem detail_cases (units : List OutputUnit) (finding : Finding) :
    (∃ message, finding.detail units =
      .single finding.cause.code message (.ofPointer finding.target.render)) ∨
    (finding.cause.code = Detail.choiceCode ∧
      alternativesOf finding.location finding.target units ≠ [] ∧
      finding.detail units = .oneOf Detail.choiceCode choiceText (.ofPointer finding.target.render)
        ((alternativesOf finding.location finding.target units).map OutputUnit.detail)) := by
  rw [detail]
  cases finding.cause with
  | oneOfNone =>
      dsimp only
      cases alternativesOf finding.location finding.target units with
      | nil => exact Or.inl ⟨_, rfl⟩
      | cons first more => exact Or.inr ⟨rfl, by simp, rfl⟩
  | _ => exact Or.inl ⟨_, rfl⟩

theorem path_detail (units : List OutputUnit) (finding : Finding) :
    (finding.detail units).path = finding.target.map Segment.parse := by
  rw [← Path.ofPointer_render]
  rcases detail_cases units finding with ⟨_, h⟩ | ⟨_, _, h⟩ <;> rw [h] <;> rfl

theorem code_detail (units : List OutputUnit) (finding : Finding) :
    (finding.detail units).code = finding.cause.code := by
  rcases detail_cases units finding with ⟨_, h⟩ | ⟨hcode, _, h⟩
  · rw [h]
    rfl
  · rw [h, hcode]
    rfl

theorem detail_sound (units : List OutputUnit) (finding : Finding) :
    (finding.detail units).Sound := by
  rcases detail_cases units finding with ⟨_, h⟩ | ⟨_, hsome, h⟩
  · rw [h]
    exact .single _ _ _
  · rw [h]
    refine .oneOf _ _ (by simpa using hsome) fun entry hentry => ?_
    obtain ⟨unit, hunit, rfl⟩ := List.mem_map.mp hentry
    obtain ⟨more, hmore⟩ := exists_path_append_of_mem_alternativesOf hunit
    exact ⟨OutputUnit.code, unit.text, more, by rw [← hmore]; rfl⟩

end Finding

namespace Outcome

theorem verdict_of_nil {outcome : Outcome} (h : outcome.findings = []) :
    outcome.verdict = .ok () := by
  rw [verdict, isValid, h]
  rfl

/-- Findings reject a document, with a detail for each of them. -/
theorem verdict_of_ne_nil {outcome : Outcome} (h : outcome.findings ≠ []) :
    ∃ details, details ≠ [] ∧
      outcome.verdict = .error (.invalid
        (headline ++ String.join (details.map fun detail => "\n  " ++ detail.message)) details) ∧
      details.map Detail.code = outcome.findings.map (fun finding => finding.cause.code) ∧
      details.map Detail.path =
        outcome.findings.map (fun finding => finding.target.map Segment.parse) ∧
      ∀ detail ∈ details, detail.Sound := by
  refine ⟨outcome.findings.map (Finding.detail outcome.units), by simpa using h, ?_, ?_, ?_, ?_⟩
  · rw [verdict, isValid, if_neg (by simpa using h)]
  · rw [List.map_map]
    exact List.map_congr_left fun finding _ => finding.code_detail outcome.units
  · rw [List.map_map]
    exact List.map_congr_left fun finding _ => finding.path_detail outcome.units
  · intro detail hdetail
    obtain ⟨finding, _, rfl⟩ := List.mem_map.mp hdetail
    exact finding.detail_sound outcome.units

theorem verdict_eq_ok_iff {outcome : Outcome} :
    outcome.verdict = .ok () ↔ outcome.findings = [] := by
  refine ⟨fun hok => Classical.byContradiction fun hsome => ?_, verdict_of_nil⟩
  obtain ⟨_, _, hinvalid, _⟩ := verdict_of_ne_nil hsome
  cases hok.symm.trans hinvalid

end Outcome

theorem verdictOn_of_error {path text : Text} {error : DocumentError}
    (h : readDocument path text = .error error) (check : Json → Outcome)
    (options : ValidationOptions) :
    verdictOn check path text options = .error (.malformed (String.ofList path) error.message) := by
  rw [verdictOn, h]

theorem verdictOn_of_ok {path text : Text} {value : Json} (h : readDocument path text = .ok value)
    (check : Json → Outcome) (options : ValidationOptions) :
    verdictOn check path text options =
      if options.schema then (check value).verdict else .ok () := by
  rw [verdictOn, h]

/-- The shapes of a verdict: malformed if nothing was read, and otherwise no objection, or a
rejection with sound details. -/
theorem verdictOn_cases (check : Json → Outcome) (path text : Text) (options : ValidationOptions) :
    (∃ error, readDocument path text = .error error ∧ verdictOn check path text options =
      .error (.malformed (String.ofList path) error.message)) ∨
    verdictOn check path text options = .ok () ∨
    ∃ message details, verdictOn check path text options = .error (.invalid message details) ∧
      details ≠ [] ∧ ∀ detail ∈ details, detail.Sound := by
  cases hread : readDocument path text with
  | error error => exact Or.inl ⟨error, rfl, verdictOn_of_error hread check options⟩
  | ok value =>
      right
      rw [verdictOn_of_ok hread]
      split
      · by_cases hnone : (check value).findings = []
        · exact Or.inl (Outcome.verdict_of_nil hnone)
        · obtain ⟨details, hsome, hinvalid, _, _, hsound⟩ := Outcome.verdict_of_ne_nil hnone
          exact Or.inr ⟨_, details, hinvalid, hsome, hsound⟩
      · exact Or.inl rfl

/-- No value that was read is malformed, whatever is found in it. -/
theorem verdictOn_eq_malformed_iff (check : Json → Outcome) (path text : Text)
    (options : ValidationOptions) :
    (∃ name message, verdictOn check path text options = .error (.malformed name message)) ↔
      ∃ error, readDocument path text = .error error := by
  constructor
  · rintro ⟨name, message, hmalformed⟩
    rcases verdictOn_cases check path text options with
      ⟨error, herror, _⟩ | hok | ⟨_, _, hinvalid, _⟩
    · exact ⟨error, herror⟩
    · cases hok.symm.trans hmalformed
    · cases hinvalid.symm.trans hmalformed
  · rintro ⟨error, herror⟩
    exact ⟨_, _, verdictOn_of_error herror check options⟩

theorem verdictOn_eq_ok_iff {path text : Text} {value : Json}
    (h : readDocument path text = .ok value) (check : Json → Outcome)
    (options : ValidationOptions) :
    verdictOn check path text options = .ok () ↔
      options.schema = false ∨ (check value).findings = [] := by
  rw [verdictOn_of_ok h]
  cases options.schema with
  | false => exact iff_of_true rfl (Or.inl rfl)
  | true =>
      rw [if_pos rfl, Outcome.verdict_eq_ok_iff]
      exact ⟨Or.inr, fun haccepted => haccepted.resolve_left Bool.noConfusion⟩

/-- The only option that the verdict reads is whether to check. -/
theorem verdictOn_congr_schema {options others : ValidationOptions}
    (h : options.schema = others.schema) (check : Json → Outcome) (path text : Text) :
    verdictOn check path text options = verdictOn check path text others := by
  rw [verdictOn, verdictOn, h]

/-- A rejection has details, all of them sound. -/
theorem sound_of_verdictOn_eq_invalid {check : Json → Outcome} {path text : Text}
    {options : ValidationOptions} {message : String} {details : List Detail}
    (h : verdictOn check path text options = .error (.invalid message details)) :
    details ≠ [] ∧ ∀ detail ∈ details, detail.Sound := by
  rcases verdictOn_cases check path text options with
    ⟨_, _, hmalformed⟩ | hok | ⟨_, _, hinvalid, hsome, hsound⟩
  · cases hmalformed.symm.trans h
  · cases hok.symm.trans h
  · cases hinvalid.symm.trans h
    exact ⟨hsome, hsound⟩

/-- A document that cannot be read is malformed whatever is asked of it. One that can be read is
accepted exactly if its value is not checked or nothing is found. Otherwise it is rejected, with
a sound detail for each finding, about the part that the finding points to, and with a line for
each detail below the headline. Nothing depends on whether the specification is asked for. -/
theorem verdictOn_shape (check : Json → Outcome) (path text : Text) (options : ValidationOptions) :
    let verdict := verdictOn check path text options
    ((∃ name message, verdict = .error (.malformed name message)) ↔
      ∃ error, readDocument path text = .error error) ∧
    (∀ error, readDocument path text = .error error →
      verdict = .error (.malformed (String.ofList path) error.message)) ∧
    (∀ value, readDocument path text = .ok value →
      let findings := (check value).findings
      (verdict = .ok () ↔ options.schema = false ∨ findings = []) ∧
      (options.schema = true → findings ≠ [] → ∃ details, details ≠ [] ∧
        verdict = .error (.invalid
          (headline ++ String.join (details.map fun detail => "\n  " ++ detail.message)) details) ∧
        details.map Detail.code = findings.map (fun finding => finding.cause.code) ∧
        details.map Detail.path = findings.map (fun finding => finding.target.map Segment.parse) ∧
        ∀ detail ∈ details, detail.Sound)) ∧
    ∀ spec, verdictOn check path text { options with spec := spec } = verdict := by
  refine ⟨verdictOn_eq_malformed_iff check path text options,
    fun error herror => verdictOn_of_error herror check options,
    fun value hvalue => ⟨verdictOn_eq_ok_iff hvalue check options, fun hon hsome => ?_⟩,
    fun spec => verdictOn_congr_schema rfl check path text⟩
  rw [verdictOn_of_ok hvalue, if_pos hon]
  exact Outcome.verdict_of_ne_nil hsome

/-- A choice under a key that a numeral names, with one alternative that goes further. -/
theorem verdictOn_rejects_choice :
    let code : Pointer := ["paths".toList, "200".toList]
    let check : Json → Outcome := fun value =>
      ⟨[⟨.oneOfNone, value, code, ["oneOf".toList]⟩],
        [⟨["oneOf".toList, "0".toList, "type".toList], code ++ ["a/b".toList], "no"⟩,
          ⟨["items".toList, "type".toList], code ++ ["a/b".toList], "elsewhere"⟩]⟩
    let choice : Detail :=
      .oneOf "ONE_OF_MISSING" "Data does not match any schemas from 'oneOf'"
        [.key "paths".toList, .index 200]
        [.single "SCHEMA_VALIDATION_FAILED" "no"
          [.key "paths".toList, .index 200, .key "a/b".toList]]
    verdictOn check "a.json".toList "[]".toList .structural = .error (.invalid
        (headline ++ String.join ([choice].map fun detail => "\n  " ++ detail.message)) [choice]) ∧
      choice.Sound := by
  intro code check choice
  have hread : readDocument "a.json".toList "[]".toList = .ok (.array []) := by cbv
  have hexact : verdictOn check "a.json".toList "[]".toList .structural = .error
      (.invalid (headline ++ String.join ([choice].map fun detail => "\n  " ++ detail.message))
        [choice]) := by
    rw [verdictOn_of_ok hread]
    rfl
  obtain ⟨_, _, hvalue, _⟩ :=
    verdictOn_shape check "a.json".toList "[]".toList .structural
  obtain ⟨details, _, hverdict, _, _, hsound⟩ :=
    (hvalue _ hread).2 rfl (List.cons_ne_nil _ _)
  injection hexact.symm.trans hverdict with hsame
  injection hsame with _ hdetails
  exact ⟨hexact, hsound choice (hdetails ▸ List.mem_singleton_self choice)⟩

end Schema

end ApiLint
