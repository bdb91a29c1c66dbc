import ApiLint.Proofs.Diagnostic
import ApiLint.Proofs.Lint

/-!
# When linting shows nothing

No diagnostics is what a valid document and a document that is no API description come to. An
error comes to the same in one case, and in that case only: it has a list of details, and the
list is empty (`Buffer.lint_shows_nothing_iff`). Then nothing stands for the error itself, since
its message is shown only if it has no list at all.
-/

namespace ApiLint

namespace ValidationError

theorem details?_eq_nil_iff {error : ValidationError} :
    error.details? = some [] ↔ ∃ message, error = .invalid message [] := by
  constructor
  · intro h
    cases error with
    | invalid message details =>
        injection h with h
        exact ⟨message, by rw [h]⟩
    | unreadable path message => cases h
    | malformed path message => cases h
    | badSchema message => cases h
  · rintro ⟨message, rfl⟩
    rfl

end ValidationError

namespace Buffer

/-- A verdict about the text of the buffer comes to diagnostics. -/
theorem exists_conclude_eq_messages {buffer : Buffer} {captured : Text}
    (h : buffer.text = captured) (verdict : Verdict) :
    ∃ diagnostics, (buffer.conclude captured verdict).1 = .messages diagnostics ∧
      (diagnostics = [] ↔
        verdict = .ok () ∨ ∃ message, verdict = .error (.invalid message [])) := by
  cases verdict with
  | ok _ => exact ⟨[], by rw [conclude_ok h], iff_of_true rfl (Or.inl rfl)⟩
  | error error =>
      obtain ⟨after, hafter, _⟩ := conclude_error h error
      refine ⟨_, by rw [hafter], ?_⟩
      rw [ValidationError.diagnostics_eq_nil_iff, ValidationError.details?_eq_nil_iff]
      simp

/-- If a validator leaves the text as it was, linting comes to diagnostics: to none if the text
is not worth it, if it is accepted, or if the error has an empty list of details. -/
theorem exists_lint_eq_messages {buffer : Buffer} {validator : Validator}
    {options : ValidationOptions}
    (hsame : ((validator buffer.path options).run buffer).2.text = buffer.text) :
    let verdict := ((validator buffer.path options).run buffer).1
    ∃ diagnostics, (buffer.lint validator options).outcome = .messages diagnostics ∧
      (diagnostics = [] ↔ buffer.isEligible = false ∨ verdict = .ok () ∨
        ∃ message, verdict = .error (.invalid message [])) := by
  intro verdict
  cases heligible : buffer.isEligible with
  | false => exact ⟨[], by rw [lint_of_not_eligible heligible], iff_of_true rfl (Or.inl rfl)⟩
  | true =>
      obtain ⟨diagnostics, hdiagnostics, hnil⟩ := exists_conclude_eq_messages hsame verdict
      exact ⟨diagnostics, by rw [lint_of_eligible heligible]; exact hdiagnostics,
        hnil.trans (by simp)⟩

/-- With a validator that leaves the text as it was, nothing is shown exactly if the text is not
worth it, if it is accepted, or if the error has an empty list of details. Every other error
shows. -/
theorem lint_shows_nothing_iff {buffer : Buffer} {validator : Validator}
    {options : ValidationOptions}
    (hsame : ((validator buffer.path options).run buffer).2.text = buffer.text) :
    let verdict := ((validator buffer.path options).run buffer).1
    let outcome := (buffer.lint validator options).outcome
    (outcome = .messages [] ↔ buffer.isEligible = false ∨ verdict = .ok () ∨
      ∃ message, verdict = .error (.invalid message [])) ∧
    ∀ error, buffer.isEligible = true → verdict = .error error → error.details? ≠ some [] →
      ∃ first more, outcome = .messages (first :: more) := by
  intro verdict outcome
  obtain ⟨diagnostics, hdiagnostics, hnil⟩ := exists_lint_eq_messages hsame
  have houtcome : outcome = .messages diagnostics := hdiagnostics
  rw [houtcome]
  refine ⟨by rw [← hnil]; simp, ?_⟩
  intro error heligible herror hdetails
  cases diagnostics with
  | cons first more => exact ⟨first, more, rfl⟩
  | nil =>
      rcases hnil.mp rfl with hnot | hok | ⟨message, hempty⟩
      · cases heligible.symm.trans hnot
      · cases hok.symm.trans herror
      · cases hempty.symm.trans herror
        exact absurd rfl hdetails

/-- An error that is no list of details. -/
theorem lint_shows_bad_schema :
    let buffer := new "api.yaml" "swagger: '2.0'\n".toList
    let validator := Validator.constant (.error (.badSchema "no schema"))
    ∃ first more, (buffer.lint validator .structural).outcome = .messages (first :: more) := by
  intro buffer validator
  have hsame : ((validator buffer.path .structural).run buffer).2.text = buffer.text := rfl
  have heligible : buffer.isEligible = true := by decide +kernel
  exact (lint_shows_nothing_iff hsame).2 (.badSchema "no schema") heligible rfl nofun

/-- The error says that the document is invalid, and nothing is shown. -/
theorem lint_hides_error_without_details :
    let buffer := new "api.yaml" "swagger: '2.0'\n".toList
    let verdict : Verdict := .error (.invalid "rejected" [])
    let validator := Validator.constant verdict
    buffer.isEligible = true ∧
      (validator buffer.path .structural).run buffer = (verdict, buffer) ∧
      (buffer.lint validator .structural).outcome = .messages [] := by
  intro buffer verdict validator
  have heligible : buffer.isEligible = true := by decide +kernel
  refine ⟨heligible, rfl, ?_⟩
  rw [lint_of_eligible heligible]
  rfl

end Buffer

end ApiLint
