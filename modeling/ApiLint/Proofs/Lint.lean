import ApiLint.Lint
import ApiLint.Proofs.Buffer

/-!
# Linting does not depend on kept tokens

A validator at work, the making of diagnostics and linting itself consist of requests to
one buffer, so what holds of requests holds of them: alike buffers give the same answers
and stay alike, and all that becomes of a buffer is that tokens are kept and the text is
replaced.

`Buffer.lint_spec` says what linting comes to while a validator does with the buffer what
it wants. `Operation.perform_eq_reopened` compares a buffer in use with one that is opened
anew with the text last set, and so never has kept anything. The text last set is told by the
requests alone (`Operation.lastTextOf`): it is what the last of them that sets a text sets.

A grammar may also be chosen for a buffer that keeps tokens already. They then stay in the
grammar they are in, which is all that `Buffer.Reachable.isFaithful` grants, and diagnostics
are placed by them.
-/

namespace ApiLint

namespace Buffer

/-! ## Diagnostics -/

theorem diagnosticBy_apply (filePath : FileName) (text : Text) (detail : Detail) (buffer : Buffer) :
    detail.diagnosticBy (m := StateM Buffer) (fun path buffer => buffer.resolve path) filePath text
        buffer =
      (Id.run (detail.diagnosticBy (fun path => pure (path.resolve? buffer.document.source))
        filePath text), (buffer.resolve detail.path).2) := by
  rw [Detail.diagnosticBy, bind_apply, resolve_eq]
  rfl

/-- Placing details by asking a buffer is placing them by the tokens it answers from. -/
theorem mapM_diagnosticBy_apply (filePath : FileName) (text : Text) (details : List Detail) :
    ∀ buffer : Buffer, ∃ after,
      details.mapM (Detail.diagnosticBy (m := StateM Buffer)
          (fun path buffer => buffer.resolve path) filePath text) buffer =
        (Id.run (details.mapM (Detail.diagnosticBy
          (fun path => pure (path.resolve? buffer.document.source)) filePath text)), after) ∧
      Alike buffer after ∧ Evolves buffer after := by
  induction details with
  | nil => exact fun buffer => ⟨buffer, rfl, .refl buffer, .refl⟩
  | cons detail rest ih =>
      intro buffer
      have halike := buffer.resolve_alike detail.path
      obtain ⟨after, hrest, hafter, hevolves⟩ := ih (buffer.resolve detail.path).2
      refine ⟨after, ?_, halike.trans hafter, (buffer.resolve_evolves detail.path).trans hevolves⟩
      rw [← halike.document_eq] at hrest
      rw [List.mapM_cons, List.mapM_cons, bind_apply, diagnosticBy_apply, bind_apply, hrest]
      rfl

/-- The diagnostics of an error in a buffer are those by the tokens it answers from. -/
theorem diagnose_eq (buffer : Buffer) (error : ValidationError) (text : Text) :
    ∃ after, buffer.diagnose error text =
        (error.diagnostics buffer.path text buffer.document.source, after) ∧
      Alike buffer after ∧ Evolves buffer after := by
  rw [diagnose, ValidationError.diagnosticsBy, ValidationError.diagnostics,
    ValidationError.diagnosticsBy]
  cases error.details? with
  | none => exact ⟨buffer, rfl, .refl buffer, .refl⟩
  | some details => exact mapM_diagnosticBy_apply _ text (details.flatMap Detail.shown) buffer

end Buffer

/-! ## Validators at work -/

namespace Review

theorem run_ask {α : Type} (request : Buffer.Request α) (next : α → Review) (buffer : Buffer) :
    (Review.ask request next).run buffer =
      (next (request.perform buffer).1).run (request.perform buffer).2 := rfl

/-- A validator cannot tell alike buffers apart. -/
theorem run_alike (review : Review) {a b : Buffer} (h : Buffer.Alike a b) :
    (review.run a).1 = (review.run b).1 ∧ Buffer.Alike (review.run a).2 (review.run b).2 := by
  induction review generalizing a b with
  | answer verdict => exact ⟨rfl, h⟩
  | ask request next ih =>
      obtain ⟨hreply, hafter⟩ := request.perform_alike h
      rw [run_ask, run_ask, ← hreply]
      exact ih _ hafter

theorem evolves (review : Review) (buffer : Buffer) :
    Buffer.Evolves buffer (review.run buffer).2 := by
  induction review generalizing buffer with
  | answer verdict => exact .refl
  | ask request next ih => exact (request.evolves buffer).trans (ih _ _)

end Review

namespace Buffer

/-! ## Linting -/

theorem conclude_of_ne {buffer : Buffer} {captured : Text} (h : buffer.text ≠ captured)
    (verdict : Verdict) : buffer.conclude captured verdict = (.noUpdate, buffer) :=
  if_pos h

theorem conclude_ok {buffer : Buffer} {captured : Text} (h : buffer.text = captured) :
    buffer.conclude captured (.ok ()) = (.messages [], buffer) := by
  rw [conclude, if_neg (not_not_intro h)]

theorem conclude_error {buffer : Buffer} {captured : Text} (h : buffer.text = captured)
    (error : ValidationError) :
    ∃ after, buffer.conclude captured (.error error) =
        (.messages (error.diagnostics buffer.path captured
          buffer.document.source), after) ∧
      Alike buffer after ∧ Evolves buffer after := by
  obtain ⟨after, hdiagnose, halike, hevolves⟩ := buffer.diagnose_eq error captured
  refine ⟨after, ?_, halike, hevolves⟩
  rw [conclude, if_neg (not_not_intro h)]
  show (LintOutcome.messages (buffer.diagnose error captured).1,
    (buffer.diagnose error captured).2) = _
  rw [hdiagnose]

/-- An answer is thrown away exactly if it is about another text. -/
theorem conclude_eq_noUpdate_iff {buffer : Buffer} {captured : Text} {verdict : Verdict} :
    (buffer.conclude captured verdict).1 = .noUpdate ↔ buffer.text ≠ captured := by
  constructor
  · intro h heq
    cases verdict with
    | ok _ =>
        rw [conclude_ok heq] at h
        cases h
    | error error =>
        obtain ⟨after, hafter, _⟩ := conclude_error heq error
        rw [hafter] at h
        cases h
  · intro h
    rw [conclude_of_ne h]

/-- Concluding keeps tokens at most. -/
theorem alike_conclude (buffer : Buffer) (captured : Text) (verdict : Verdict) :
    Alike buffer (buffer.conclude captured verdict).2 := by
  by_cases heq : buffer.text = captured
  · cases verdict with
    | ok _ =>
        rw [conclude_ok heq]
        exact .refl buffer
    | error error =>
        obtain ⟨after, hafter, halike, _⟩ := conclude_error heq error
        rw [hafter]
        exact halike
  · rw [conclude_of_ne heq]
    exact .refl buffer

theorem conclude_alike {a b : Buffer} (h : Alike a b) (captured : Text) (verdict : Verdict) :
    (a.conclude captured verdict).1 = (b.conclude captured verdict).1 ∧
      Alike (a.conclude captured verdict).2 (b.conclude captured verdict).2 := by
  refine ⟨?_, ((a.alike_conclude captured verdict).symm.trans h).trans
    (b.alike_conclude captured verdict)⟩
  by_cases heq : b.text = captured
  · cases verdict with
    | ok _ => rw [conclude_ok heq, conclude_ok (h.text_eq.trans heq)]
    | error error =>
        obtain ⟨later, hb, _⟩ := conclude_error heq error
        obtain ⟨after, ha, _⟩ := conclude_error (h.text_eq.trans heq) error
        rw [ha, hb, h.path_eq, h.document_eq]
  · have hne : a.text ≠ captured := h.text_eq ▸ heq
    rw [conclude_of_ne heq, conclude_of_ne hne]

theorem conclude_evolves (buffer : Buffer) (captured : Text) (verdict : Verdict) :
    Evolves buffer (buffer.conclude captured verdict).2 := by
  by_cases heq : buffer.text = captured
  · cases verdict with
    | ok _ =>
        rw [conclude_ok heq]
        exact .refl
    | error error =>
        obtain ⟨after, hafter, _, hevolves⟩ := conclude_error heq error
        rw [hafter]
        exact hevolves
  · rw [conclude_of_ne heq]
    exact .refl

theorem lint_of_not_eligible {buffer : Buffer} (h : buffer.isEligible = false)
    (validator : Validator) (options : ValidationOptions) :
    buffer.lint validator options = ⟨.messages [], [], buffer⟩ := by
  rw [lint, if_neg (by rw [h]; simp)]

/-- A text that is worth it has the validator asked once, and its verdict concluded upon. -/
theorem lint_of_eligible {buffer : Buffer} (h : buffer.isEligible = true) (validator : Validator)
    (options : ValidationOptions) :
    let reviewed := (validator buffer.path options).run buffer
    let concluded := reviewed.2.conclude buffer.text reviewed.1
    buffer.lint validator options = ⟨concluded.1, [(buffer.path, options)], concluded.2⟩ := by
  rw [lint, if_pos h]
  rfl

/-- Linting alike buffers comes to the same, and they are alike afterwards. -/
theorem lint_alike (validator : Validator) (options : ValidationOptions) {a b : Buffer}
    (h : Alike a b) :
    (a.lint validator options).outcome = (b.lint validator options).outcome ∧
      (a.lint validator options).calls = (b.lint validator options).calls ∧
      Alike (a.lint validator options).buffer (b.lint validator options).buffer := by
  have heligible : a.isEligible = b.isEligible := congrArg Text.isEligible h.text_eq
  cases hb : b.isEligible with
  | false =>
      rw [lint_of_not_eligible hb, lint_of_not_eligible (heligible.trans hb)]
      exact ⟨rfl, rfl, h⟩
  | true =>
      obtain ⟨hverdict, hafter⟩ := (validator b.path options).run_alike h
      obtain ⟨houtcome, hbuffer⟩ := conclude_alike hafter b.text
        ((validator b.path options).run b).1
      rw [lint_of_eligible hb, lint_of_eligible (heligible.trans hb), h.path_eq, h.text_eq,
        hverdict]
      exact ⟨houtcome, rfl, hbuffer⟩

theorem lint_evolves (buffer : Buffer) (validator : Validator) (options : ValidationOptions) :
    Evolves buffer (buffer.lint validator options).buffer := by
  cases h : buffer.isEligible with
  | false =>
      rw [lint_of_not_eligible h]
      exact .refl
  | true =>
      rw [lint_of_eligible h]
      exact ((validator buffer.path options).evolves buffer).trans (conclude_evolves _ _ _)

end Buffer

/-! ## Operations -/

namespace Operation

theorem perform_alike {α : Type} (operation : Operation α) {a b : Buffer}
    (h : Buffer.Alike a b) :
    (operation.perform a).1 = (operation.perform b).1 ∧
      Buffer.Alike (operation.perform a).2 (operation.perform b).2 := by
  cases operation with
  | ask request => exact request.perform_alike h
  | lint validator options =>
      obtain ⟨houtcome, hcalls, hafter⟩ := Buffer.lint_alike validator options h
      refine ⟨?_, hafter⟩
      rw [perform, perform, houtcome, hcalls]

theorem evolves {α : Type} (operation : Operation α) (buffer : Buffer) :
    Buffer.Evolves buffer (operation.perform buffer).2 := by
  cases operation with
  | ask request => exact request.evolves buffer
  | lint validator options => exact buffer.lint_evolves validator options

theorem performAll_evolves (operations : List (Sigma Operation)) :
    ∀ buffer, Buffer.Evolves buffer (performAll operations buffer) := by
  induction operations with
  | nil => exact fun _ => .refl
  | cons operation rest ih =>
      intro buffer
      exact (operation.2.evolves buffer).trans (ih (operation.2.perform buffer).2)

end Operation

namespace Buffer

theorem opened_eq (path : FileName) (text : Text) (chosen? : Option Grammar) :
    opened path text chosen? = ⟨path, text, chosen?, none⟩ := by
  cases chosen? with
  | none => rfl
  | some grammar => rfl

theorem opened_isCurrent (path : FileName) (text : Text) (chosen? : Option Grammar) :
    (opened path text chosen?).IsCurrent := by
  rw [opened_eq]
  exact Or.inl rfl

/-- What becomes of an opened buffer is like one that is opened with the text it has now. -/
theorem Evolves.alike_opened {path : FileName} {text : Text} {chosen? : Option Grammar}
    {later : Buffer} (h : Evolves (opened path text chosen?) later) :
    Alike later (opened path later.text chosen?) := by
  have hpath : later.path = path := by rw [h.path_eq, opened_eq]
  have hchosen : later.chosen? = chosen? := by rw [h.chosen?_eq, opened_eq]
  have hcurrent := isCurrent_iff.mp (h.isCurrent (opened_isCurrent path text chosen?))
  refine ⟨by rw [hpath, opened_eq], by rw [opened_eq], by rw [hchosen, opened_eq], ?_⟩
  rw [hcurrent, isCurrent_iff.mp (opened_isCurrent path later.text chosen?), opened_eq, grammar,
    hpath, hchosen]
  rfl

/-! ## Every buffer -/

/-- The buffers there are: new ones, and what becomes of a buffer when a grammar is chosen for
it or something is done with it. -/
inductive Reachable : Buffer → Prop where
  | new (path : FileName) (text : Text) : Reachable (new path text)
  | withGrammar {buffer : Buffer} (grammar : Grammar) (h : Reachable buffer) :
    Reachable (buffer.withGrammar grammar)
  | perform {α : Type} {buffer : Buffer} (operation : Operation α) (h : Reachable buffer) :
    Reachable (operation.perform buffer).2

/-- A buffer never answers from tokens of another text. -/
theorem Reachable.isFaithful {buffer : Buffer} (h : buffer.Reachable) : buffer.IsFaithful := by
  induction h with
  | new path text => exact IsCurrent.isFaithful (Or.inl rfl)
  | @withGrammar buffer grammar _ ih =>
      obtain ⟨path, text, chosen?, cached?⟩ := buffer
      cases cached? with
      | none => exact IsCurrent.isFaithful (Or.inl rfl)
      | some kept => exact ih
  | perform operation _ ih => exact (operation.evolves _).isFaithful ih

/-- A text that is not worth it leaves everything as it was, and no validator is asked. Else
the validator is asked once, and the text is left as its work has left it. Its answer is thrown
away exactly if this is another text than before; if not, the diagnostics are those of its error
about that text, placed by tokens made of it. These are in the grammar of the buffer, unless that
was chosen when there were tokens already: then they may still be in the grammar that those were
in. -/
theorem lint_spec {buffer : Buffer} (h : buffer.Reachable) (validator : Validator)
    (options : ValidationOptions) :
    (buffer.text.isEligible = false →
      buffer.lint validator options = ⟨.messages [], [], buffer⟩) ∧
    (buffer.text.isEligible = true →
      let reviewed := (validator buffer.path options).run buffer
      let linted := buffer.lint validator options
      linted.calls = [(buffer.path, options)] ∧ linted.buffer.text = reviewed.2.text ∧
      (linted.outcome = .noUpdate ↔ reviewed.2.text ≠ buffer.text) ∧
      (reviewed.2.text = buffer.text →
        (reviewed.1 = .ok () → linted.outcome = .messages []) ∧
        (∀ error, reviewed.1 = .error error →
          linted.outcome = .messages (error.diagnostics buffer.path buffer.text
            (buffer.text.tokenize reviewed.2.document.grammar).source)) ∧
        (buffer.IsCurrent → reviewed.2.document.grammar = buffer.grammar) ∧
        (reviewed.2.document.grammar = buffer.document.grammar ∨
          reviewed.2.document.grammar = buffer.grammar))) := by
  refine ⟨fun hnot => lint_of_not_eligible hnot validator options, ?_⟩
  intro heligible reviewed linted
  have hevolves : Evolves buffer reviewed.2 := (validator buffer.path options).evolves buffer
  have hlinted : linted = ⟨(reviewed.2.conclude buffer.text reviewed.1).1,
      [(buffer.path, options)], (reviewed.2.conclude buffer.text reviewed.1).2⟩ :=
    lint_of_eligible heligible validator options
  rw [hlinted]
  refine ⟨rfl, (reviewed.2.alike_conclude _ _).text_eq.symm, conclude_eq_noUpdate_iff,
    fun hsame => ?_⟩
  have hgrammar : reviewed.2.grammar = buffer.grammar := by
    rw [grammar, grammar, hevolves.path_eq, hevolves.chosen?_eq, hsame]
  refine ⟨?_, ?_, fun hcurrent => ?_, hgrammar ▸ hevolves.document_grammar⟩
  · intro hok
    show (reviewed.2.conclude buffer.text reviewed.1).1 = _
    rw [hok, conclude_ok hsame]
  · intro error herror
    obtain ⟨after, hafter, _⟩ := conclude_error hsame error
    have hfaithful : reviewed.2.document =
        reviewed.2.text.tokenize reviewed.2.document.grammar := hevolves.isFaithful h.isFaithful
    show (reviewed.2.conclude buffer.text reviewed.1).1 = _
    rw [herror, hafter, hevolves.path_eq, ← hsame, ← hfaithful]
  · rw [(hevolves.isCurrent hcurrent).document_grammar, hgrammar]

/-- A validator that empties the buffer, has that counted in lines, and puts the text back. -/
theorem lint_edited_and_restored :
    let text : Text := "swagger: '2.0'\npaths: 1\n".toList
    let error : ValidationError := .invalid "invalid" [.single "TYPE" "wrong" [.key "paths".toList]]
    let validator : Validator := fun _ _ => .ask (.setText []) fun _ => .ask .lineCount fun _ =>
      .ask (.setText text) fun _ => .answer (.error error)
    let linted := (new "api.yaml" text).lint validator .structural
    linted.calls = [(.text "api.yaml", .structural)] ∧
      linted.outcome = .messages [⟨"wrong", "api.yaml", .onLine 1 0 5⟩] := by
  intro text error validator linted
  have hyaml : (new "api.yaml" text).grammar = .yaml := by decide +kernel
  have hkeys : (Grammar.yaml.tree text).keySpans text =
      [⟨0, ⟨0, 7⟩, ⟨0, 7⟩⟩, ⟨1, ⟨15, 20⟩, ⟨15, 20⟩⟩] := by
    rw [Tree.keySpans, List.mergeSort_of_pairwise (by decide +kernel)]
    decide +kernel
  obtain ⟨_, heligible⟩ := lint_spec (.new "api.yaml" text) validator .structural
  obtain ⟨hcalls, _, _, hsame⟩ := heligible (by decide +kernel)
  obtain ⟨_, hmessages, hgrammar, _⟩ := hsame rfl
  have houtcome := hmessages error rfl
  rw [hgrammar (Or.inl rfl), hyaml] at houtcome
  refine ⟨hcalls, houtcome.trans ?_⟩
  show LintOutcome.messages (error.diagnostics _ text (text.tokenize .yaml).source) = _
  rw [Text.tokenize, TokenizedDocument.ofTree?, hkeys]
  decide +kernel

/-- In a text that both grammars can read, what is a key in one is a comment in the other. The
lines are counted before the second of them is chosen. -/
theorem lint_places_by_kept_grammar :
    let text : Text := "\x7b// a: 1,\n\"swagger\": \"2.0\"\x7d".toList
    let error : ValidationError := .invalid "invalid" [.single "TYPE" "wrong" [.key "// a".toList]]
    let buffer := (new "api.yaml" text).lineCount.2.withGrammar .json
    let linted := buffer.lint (.constant (.error error)) .structural
    let fresh := (text.tokenize buffer.grammar).source
    buffer.Reachable ∧ buffer.text = text ∧ buffer.grammar = .json ∧
      linted.outcome = .messages [⟨"wrong", "api.yaml", .onLine 0 1 5⟩] ∧
      error.diagnostics "api.yaml" text fresh = [⟨"wrong", "api.yaml", .wholeDocument text⟩] ∧
      linted.outcome ≠ .messages (error.diagnostics "api.yaml" text fresh) := by
  intro text error buffer linted fresh
  have hyaml : (Grammar.yaml.tree text).keySpans text =
      [⟨0, ⟨1, 5⟩, ⟨1, 5⟩⟩, ⟨1, ⟨10, 19⟩, ⟨11, 18⟩⟩] := by
    rw [Tree.keySpans, List.mergeSort_of_pairwise (by decide +kernel)]
    decide +kernel
  have hjson : (Grammar.json.tree text).keySpans text = [⟨1, ⟨10, 19⟩, ⟨11, 18⟩⟩] := by
    rw [Tree.keySpans, List.mergeSort_of_pairwise (by decide +kernel)]
    decide +kernel
  have houtcome : linted.outcome =
      .messages (error.diagnostics "api.yaml" text (text.tokenize .yaml).source) := by
    have hgrammar : (new "api.yaml" text).grammar = .yaml := by decide +kernel
    have hdocument : buffer.document = text.tokenize .yaml := by
      rw [← hgrammar]
      rfl
    obtain ⟨after, hafter, _⟩ := conclude_error (show buffer.text = text from rfl) error
    rw [show linted = _ from lint_of_eligible (by decide +kernel) _ _]
    show (buffer.conclude text (.error error)).1 = _
    rw [hafter, hdocument]
    rfl
  have hkept : error.diagnostics "api.yaml" text (text.tokenize .yaml).source =
      [⟨"wrong", "api.yaml", .onLine 0 1 5⟩] := by
    rw [Text.tokenize, TokenizedDocument.ofTree?, hyaml]
    decide +kernel
  have hfresh : error.diagnostics "api.yaml" text fresh =
      [⟨"wrong", "api.yaml", .wholeDocument text⟩] := by
    show error.diagnostics _ text (text.tokenize .json).source = _
    rw [Text.tokenize, TokenizedDocument.ofTree?, hjson]
    decide +kernel
  have hreachable : buffer.Reachable := .withGrammar .json (.perform (.ask .lineCount) (.new _ _))
  rw [houtcome, hkept, hfresh]
  exact ⟨hreachable, rfl, rfl, rfl, rfl, by decide +kernel⟩

end Buffer

/-! ## The text last set -/

/-- The text that a request sets, if it sets one. -/
def Buffer.Request.set? {α : Type} : Buffer.Request α → Option Text
  | .setText replacement => some replacement
  | _ => none

/-- The text last set when a validator has answered, where `text` was before. What the validator
asks on its way is told it by a new buffer with the text last set by then. -/
def Review.lastText (path : FileName) (chosen? : Option Grammar) : Review → Text → Text
  | .answer _, text => text
  | .ask request next, text =>
    let reply := (request.perform (Buffer.opened path text chosen?)).1
    (next reply).lastText path chosen? (request.set?.getD text)

/-- The text last set after an operation, where `text` was before. Linting sets what its validator
sets, if that is asked at all. -/
def Operation.lastText (path : FileName) (chosen? : Option Grammar) {α : Type} :
    Operation α → Text → Text
  | .ask request, text => request.set?.getD text
  | .lint validator options, text =>
    if text.isEligible then (validator path options).lastText path chosen? text else text

/-- The text last set by a row of operations. -/
def Operation.lastTextOf (path : FileName) (chosen? : Option Grammar)
    (operations : List (Sigma Operation)) (text : Text) : Text :=
  operations.foldl (fun text operation => operation.2.lastText path chosen? text) text

section

variable {path : FileName} {chosen? : Option Grammar} {text : Text} {buffer : Buffer}

theorem Buffer.Request.text_perform {α : Type} (request : Buffer.Request α) (buffer : Buffer) :
    (request.perform buffer).2.text = request.set?.getD buffer.text := by
  cases request with
  | setText text => rfl
  | text => rfl
  | path => rfl
  | grammar => rfl
  | isEligible => rfl
  | lineCount =>
      rw [perform, Buffer.lineCount_eq]
      rfl
  | tokensForLine line =>
      rw [perform, Buffer.tokensForLine_eq]
      rfl
  | resolve path => exact (buffer.resolve_alike path).text_eq.symm

/-- A request leaves a buffer like a new one with the text last set. -/
theorem Buffer.Request.perform_alike_opened {α : Type} (request : Buffer.Request α)
    (h : Buffer.Alike buffer (Buffer.opened path text chosen?)) :
    Buffer.Alike (request.perform buffer).2
      (Buffer.opened path (request.set?.getD text) chosen?) := by
  have hopened := (request.evolves (Buffer.opened path text chosen?)).alike_opened
  rw [request.text_perform, Buffer.opened_eq path text] at hopened
  exact (request.perform_alike h).2.trans (by rwa [Buffer.opened_eq path text])

theorem Review.run_alike_opened (review : Review)
    (h : Buffer.Alike buffer (Buffer.opened path text chosen?)) :
    Buffer.Alike (review.run buffer).2
      (Buffer.opened path (review.lastText path chosen? text) chosen?) := by
  induction review generalizing buffer text with
  | answer verdict => exact h
  | ask request next ih =>
      rw [run_ask, lastText, (request.perform_alike h).1]
      exact ih _ (request.perform_alike_opened h)

namespace Operation

theorem perform_alike_opened {α : Type} (operation : Operation α)
    (h : Buffer.Alike buffer (Buffer.opened path text chosen?)) :
    Buffer.Alike (operation.perform buffer).2
      (Buffer.opened path (operation.lastText path chosen? text) chosen?) := by
  cases operation with
  | ask request => exact request.perform_alike_opened h
  | lint validator options =>
      have hpath : buffer.path = path := by rw [h.path_eq, Buffer.opened_eq]
      have htext : buffer.text = text := by rw [h.text_eq, Buffer.opened_eq]
      rw [lastText, ← hpath, ← htext]
      show Buffer.Alike (buffer.lint validator options).buffer _
      cases heligible : buffer.text.isEligible with
      | false =>
          rw [Buffer.lint_of_not_eligible heligible, hpath, htext]
          exact h
      | true =>
          rw [Buffer.lint_of_eligible heligible, if_pos rfl]
          have hreviewed := (validator buffer.path options).run_alike_opened h
          rw [← hpath, ← htext] at hreviewed
          exact (Buffer.alike_conclude _ _ _).symm.trans hreviewed

theorem performAll_alike_opened (operations : List (Sigma Operation))
    (h : Buffer.Alike buffer (Buffer.opened path text chosen?)) :
    Buffer.Alike (performAll operations buffer)
      (Buffer.opened path (lastTextOf path chosen? operations text) chosen?) := by
  induction operations generalizing buffer text with
  | nil => exact h
  | cons operation rest ih => exact ih (operation.2.perform_alike_opened h)

/-- A buffer in use holds the text last set, and answers as one that is opened anew with that text.
What tokens it keeps are those of its text in its grammar. -/
theorem perform_eq_reopened (path : FileName) (text : Text) (chosen? : Option Grammar)
    (operations : List (Sigma Operation)) {α : Type} (operation : Operation α) :
    let buffer := performAll operations (Buffer.opened path text chosen?)
    let last := lastTextOf path chosen? operations text
    buffer.text = last ∧
      (operation.perform buffer).1 = (operation.perform (Buffer.opened path last chosen?)).1 ∧
      buffer.IsCurrent := by
  intro buffer last
  have halike : Buffer.Alike buffer (Buffer.opened path last chosen?) :=
    performAll_alike_opened operations (.refl _)
  have hevolves : Buffer.Evolves (Buffer.opened path text chosen?) buffer :=
    performAll_evolves operations _
  refine ⟨?_, (operation.perform_alike halike).1,
    hevolves.isCurrent (Buffer.opened_isCurrent path text chosen?)⟩
  rw [halike.text_eq, Buffer.opened_eq]

end Operation

end

end ApiLint
