import ApiLint.Proofs.Lint

/-!
# Choosing a grammar for a buffer in use

Replacing the text of a buffer drops its tokens, choosing a grammar for it does not. So a choice
takes effect at once if there are no tokens yet, or if they are in that grammar already. In all
other cases the buffer goes on answering from the tokens it has, in the grammar they are in, and
the choice takes effect when its text is next replaced, even if that is by the same text.
-/

namespace ApiLint

namespace Buffer

theorem withGrammar_alike_opened {buffer : Buffer} {grammar : Grammar}
    (h : buffer.cached? = none ∨ buffer.cached? = some (buffer.text.tokenize grammar)) :
    Alike (buffer.withGrammar grammar) (opened buffer.path buffer.text (some grammar)) := by
  refine ⟨rfl, rfl, rfl, ?_⟩
  show buffer.cached?.getD (buffer.text.tokenize grammar) = buffer.text.tokenize grammar
  rcases h with hnone | hkept
  · rw [hnone, Option.getD_none]
  · rw [hkept, Option.getD_some]

theorem setText_withGrammar (buffer : Buffer) (grammar : Grammar) (text : Text) :
    (buffer.withGrammar grammar).setText text = opened buffer.path text (some grammar) := rfl

/-- Tokens that are kept outlast the choice of a grammar. -/
theorem document_withGrammar {buffer : Buffer} (h : buffer.cached? ≠ none) (grammar : Grammar) :
    (buffer.withGrammar grammar).document = buffer.document := by
  cases hkept : buffer.cached? with
  | none => exact absurd hkept h
  | some kept =>
      rw [document, document, hkept]
      show buffer.cached?.getD _ = kept
      rw [hkept, Option.getD_some]

end Buffer

namespace Operation

theorem perform_performAll_alike {α : Type} (operation : Operation α)
    (later : List (Sigma Operation)) :
    ∀ {a b : Buffer}, Buffer.Alike a b →
      (operation.perform (performAll later a)).1 = (operation.perform (performAll later b)).1 := by
  induction later with
  | nil => exact fun h => (operation.perform_alike h).1
  | cons next rest ih => exact fun h => ih (next.2.perform_alike h).2

end Operation

namespace Buffer

/-- A buffer in use for which a grammar is chosen answers like one that was opened with it if it
has kept no tokens, or is in that grammar anyway, and from the next replacement of its text on in
any case. With tokens that it has kept, it answers in the grammar it had. -/
theorem withGrammar_spec (path : FileName) (text : Text) (chosen? : Option Grammar)
    (operations : List (Sigma Operation)) (grammar : Grammar) :
    let buffer := Operation.performAll operations (opened path text chosen?)
    let forced := buffer.withGrammar grammar
    (buffer.cached? = none ∨ buffer.grammar = grammar →
      ∀ later {α : Type} (operation : Operation α),
        (operation.perform (Operation.performAll later forced)).1 =
          (operation.perform (Operation.performAll later
            (opened path buffer.text (some grammar)))).1) ∧
    (∀ replacement later {α : Type} (operation : Operation α),
      (operation.perform (Operation.performAll later (forced.setText replacement))).1 =
        (operation.perform (Operation.performAll later
          (opened path replacement (some grammar)))).1) ∧
    (buffer.cached? ≠ none →
      let source := (buffer.text.tokenize buffer.grammar).source
      forced.lineCount.1 = source.lineCount ∧
        (∀ line, (forced.tokensForLine line).1 = source.line? line) ∧
        ∀ wanted, (forced.resolve wanted).1 = Path.resolve? wanted source) := by
  intro buffer forced
  have hevolves : Evolves (opened path text chosen?) buffer :=
    Operation.performAll_evolves operations _
  have hpath : buffer.path = path := by rw [hevolves.path_eq, opened_eq]
  have hcurrent : buffer.IsCurrent := hevolves.isCurrent (opened_isCurrent path text chosen?)
  refine ⟨fun h later α operation => ?_, fun replacement later α operation => ?_, fun h => ?_⟩
  · rw [← hpath]
    refine operation.perform_performAll_alike later (withGrammar_alike_opened ?_)
    rcases h with hnone | hgrammar
    · exact Or.inl hnone
    · exact hgrammar ▸ hcurrent
  · rw [← hpath, ← setText_withGrammar]
  · have hdocument : forced.document = buffer.text.tokenize buffer.grammar :=
      (document_withGrammar h grammar).trans (isCurrent_iff.mp hcurrent)
    intro source
    refine ⟨?_, fun line => ?_, fun wanted => ?_⟩
    · rw [lineCount_eq, hdocument]
    · rw [tokensForLine_eq, hdocument]
    · rw [resolve_eq, hdocument]

/-- A text that has replaced another one, before and after its lines are counted. -/
theorem withGrammar_of_replaced_text :
    let replaced : List (Sigma Operation) := [⟨Nat, .ask .lineCount⟩, ⟨Unit, .ask (.setText ['1'])⟩]
    let counted := replaced ++ [⟨Nat, .ask .lineCount⟩]
    let buffer := Operation.performAll replaced (opened "api.yaml" [] none)
    let later := Operation.performAll counted (opened "api.yaml" [] none)
    let ask : Operation (Option TokenLine) := .ask (.tokensForLine 0)
    (ask.perform (buffer.withGrammar .json)).1 =
        (ask.perform (opened "api.yaml" ['1'] (some .json))).1 ∧
      (later.withGrammar .json).lineCount.1 = (Text.tokenize ['1'] .yaml).source.lineCount := by
  intro replaced counted buffer later ask
  obtain ⟨hfresh, _, _⟩ := withGrammar_spec "api.yaml" [] none replaced .json
  obtain ⟨_, _, hkept⟩ := withGrammar_spec "api.yaml" [] none counted .json
  have hyaml : later.grammar = .yaml := by decide +kernel
  have hlines : _ = (later.text.tokenize later.grammar).source.lineCount :=
    (hkept (Option.some_ne_none _)).1
  rw [hyaml] at hlines
  exact ⟨hfresh (Or.inl rfl) [] ask, hlines⟩

/-- Tokens that a count of lines has made, and a grammar that is chosen after it. -/
theorem withGrammar_keeps_scopes :
    let text : Text := "\x7b\"a\": 1\x7d".toList
    let buffer := Operation.performAll [⟨Nat, .ask .lineCount⟩] (new "api.yaml" text)
    let forced := buffer.withGrammar .json
    let fresh := opened "api.yaml" text (some .json)
    let quote (grammar : Grammar) := grammar.quoteToken ['"']
    buffer.text = text ∧
      (forced.tokensForLine 0).1 = some [Grammar.yaml.plainToken ['{'], quote .yaml,
        Grammar.yaml.keyToken ['a'] true, quote .yaml, Grammar.yaml.plainToken ": 1\x7d".toList] ∧
      (fresh.tokensForLine 0).1 = some [Grammar.json.plainToken ['{'], quote .json,
        Grammar.json.keyToken ['a'] true, quote .json, Grammar.json.plainToken ": 1\x7d".toList] ∧
      (forced.tokensForLine 0).1 ≠ (fresh.tokensForLine 0).1 := by
  intro text buffer forced fresh quote
  have hspans : ∀ grammar : Grammar, (grammar.tree text).keySpans text = [⟨0, ⟨1, 4⟩, ⟨2, 3⟩⟩] := by
    intro grammar
    rw [Tree.keySpans, List.mergeSort_of_pairwise (by cases grammar <;> decide +kernel)]
    cases grammar <;> decide +kernel
  have hyaml : (new "api.yaml" text).grammar = .yaml := by decide +kernel
  have hforced : forced.document = text.tokenize .yaml := by
    rw [← hyaml]
    rfl
  have hfresh : fresh.document = text.tokenize .json := rfl
  rw [tokensForLine_eq, tokensForLine_eq, hforced, hfresh, Text.tokenize, Text.tokenize,
    TokenizedDocument.ofTree?, TokenizedDocument.ofTree?, hspans, hspans]
  decide +kernel

end Buffer

end ApiLint
