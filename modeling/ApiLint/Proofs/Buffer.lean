import ApiLint.Buffer
import ApiLint.Proofs.Resolve

/-!
# Buffers as a reader sees them

A buffer answers from its tokens, kept or made on the spot, and never says which. What it
answers from is `Buffer.document`, and `Buffer.filled` is the buffer with those tokens
kept: a question about them answers from the first and leaves the second behind
(`withTokens_eq`). Looking for a path is many such questions, and `resolve_eq` says that
they all read the same document.

Two buffers are `Alike` if nothing is different once their tokens are kept. Alike buffers
give the same answers to every request and are alike afterwards (`Request.perform_alike`).

All that any request does to a buffer is to keep its tokens or to replace its text
(`Request.evolves`), so what these two preserve holds from then on: path and chosen
grammar stay, and tokens that are current, or at least those of the text, remain so.
-/

namespace ApiLint

@[simp] theorem Text.tokenize_grammar (text : Text) (grammar : Grammar) :
    (text.tokenize grammar).grammar = grammar := by
  rw [tokenize, TokenizedDocument.ofTree?]
  cases TokenizedDocument.splitLines? text grammar ((grammar.tree text).keySpans text) with
  | none => rfl
  | some lines => rfl

namespace Buffer

/-- The tokens that the buffer answers from: those it keeps, or those it would make. -/
def document (buffer : Buffer) : TokenizedDocument :=
  buffer.cached?.getD (buffer.text.tokenize buffer.grammar)

/-- The buffer once it has been asked about its tokens. -/
def filled (buffer : Buffer) : Buffer := { buffer with cached? := some buffer.document }

theorem withTokens_eq {α : Type} (buffer : Buffer) (ask : TokenizedDocument → α) :
    buffer.withTokens ask = (ask buffer.document, buffer.filled) := by
  obtain ⟨path, text, chosen?, cached?⟩ := buffer
  cases cached? with
  | none => rfl
  | some document => rfl

theorem tokensForLine_eq (buffer : Buffer) (line : Nat) :
    buffer.tokensForLine line = (buffer.document.source.line? line, buffer.filled) :=
  buffer.withTokens_eq _

theorem lineCount_eq (buffer : Buffer) :
    buffer.lineCount = (buffer.document.source.lineCount, buffer.filled) :=
  buffer.withTokens_eq _

/-! ## Looking for a path -/

theorem bind_apply {σ α β : Type} (ask : StateM σ α) (next : α → StateM σ β) (state : σ) :
    (ask >>= next) state = next (ask state).1 (ask state).2 := rfl

/-- A search over lines that can be asked for without a change goes as over known lines. -/
theorem scanLines_apply {σ : Type} {line? : Nat → StateM σ (Option TokenLine)}
    {lines : Nat → Option TokenLine} {state : σ} (h : ∀ n, line? n state = (lines n, state))
    (count : Nat) :
    ∀ names number, Resolve.scanLines line? names number count state =
      (Id.run (Resolve.scanLines (fun n => pure (lines n)) names number count), state) := by
  induction count with
  | zero => exact fun _ _ => rfl
  | succ count ih =>
      intro names number
      rw [Resolve.scanLines, Resolve.scanLines, bind_apply, h, Id.run_bind, Id.run_pure]
      cases lines number with
      | none => rfl
      | some line =>
          dsimp only
          cases Resolve.scanLine names 0 line with
          | found startColumn stopColumn => rfl
          | wanting names => exact ih names (number + 1)

/-- A path is found in a buffer where it is found in the tokens that the buffer answers from.
A path without keys asks for nothing. -/
theorem resolve_eq (buffer : Buffer) (path : Path) :
    buffer.resolve path = (path.resolve? buffer.document.source,
      if path.keys = [] then buffer else buffer.filled) := by
  rw [resolve, Path.resolveBy, Path.resolve?, Path.resolveBy]
  cases path.keys with
  | nil => rfl
  | cons name others =>
      show (lineCount >>= _ : StateM Buffer _) buffer = _
      rw [bind_apply, lineCount_eq, if_neg (List.cons_ne_nil name others)]
      exact @scanLines_apply Buffer (fun line buffer => buffer.tokensForLine line)
        buffer.document.source.line? buffer.filled (fun n => buffer.filled.tokensForLine_eq n) _
        (name :: others) 0

/-! ## Alike buffers -/

/-- The buffers differ at most in whether they keep the tokens that they answer from. -/
structure Alike (a b : Buffer) : Prop where
  path_eq : a.path = b.path
  text_eq : a.text = b.text
  chosen?_eq : a.chosen? = b.chosen?
  document_eq : a.document = b.document

namespace Alike

theorem refl (buffer : Buffer) : Alike buffer buffer := ⟨rfl, rfl, rfl, rfl⟩

theorem symm {a b : Buffer} (h : Alike a b) : Alike b a :=
  ⟨h.path_eq.symm, h.text_eq.symm, h.chosen?_eq.symm, h.document_eq.symm⟩

theorem trans {a b c : Buffer} (hab : Alike a b) (hbc : Alike b c) : Alike a c :=
  ⟨hab.path_eq.trans hbc.path_eq, hab.text_eq.trans hbc.text_eq,
    hab.chosen?_eq.trans hbc.chosen?_eq, hab.document_eq.trans hbc.document_eq⟩

theorem filled (buffer : Buffer) : Alike buffer buffer.filled := ⟨rfl, rfl, rfl, rfl⟩

theorem grammar_eq {a b : Buffer} (h : Alike a b) : a.grammar = b.grammar := by
  rw [grammar, grammar, h.path_eq, h.text_eq, h.chosen?_eq]

theorem setText_eq {a b : Buffer} (h : Alike a b) (text : Text) :
    a.setText text = b.setText text := by
  rw [setText, setText, h.path_eq, h.chosen?_eq]

end Alike

theorem resolve_alike (buffer : Buffer) (path : Path) : Alike buffer (buffer.resolve path).2 := by
  rw [resolve_eq]
  show Alike buffer (if path.keys = [] then buffer else buffer.filled)
  split
  · exact .refl buffer
  · exact .filled buffer

/-- Alike buffers give the same answer to a request, and are alike after it. -/
theorem Request.perform_alike {α : Type} (request : Request α) {a b : Buffer} (h : Alike a b) :
    (request.perform a).1 = (request.perform b).1 ∧
      Alike (request.perform a).2 (request.perform b).2 := by
  cases request with
  | setText text =>
      refine ⟨rfl, ?_⟩
      show Alike (a.setText text) (b.setText text)
      rw [h.setText_eq]
      exact .refl _
  | text => exact ⟨h.text_eq, h⟩
  | path => exact ⟨h.path_eq, h⟩
  | grammar => exact ⟨h.grammar_eq, h⟩
  | isEligible => exact ⟨congrArg Text.isEligible h.text_eq, h⟩
  | lineCount =>
      rw [perform, perform, lineCount_eq, lineCount_eq, h.document_eq]
      exact ⟨rfl, ((Alike.filled a).symm.trans h).trans (.filled b)⟩
  | tokensForLine line =>
      rw [perform, perform, tokensForLine_eq, tokensForLine_eq, h.document_eq]
      exact ⟨rfl, ((Alike.filled a).symm.trans h).trans (.filled b)⟩
  | resolve path =>
      refine ⟨?_, ((resolve_alike a path).symm.trans h).trans (resolve_alike b path)⟩
      rw [perform, perform, resolve_eq, resolve_eq, h.document_eq]

/-! ## What becomes of a buffer -/

/-- What a buffer can become: its tokens are kept, and its text is replaced. -/
inductive Evolves (buffer : Buffer) : Buffer → Prop where
  | refl : Evolves buffer buffer
  | fill {later : Buffer} (h : Evolves buffer later) : Evolves buffer later.filled
  | edit {later : Buffer} (text : Text) (h : Evolves buffer later) :
    Evolves buffer (later.setText text)

namespace Evolves

theorem trans {a b c : Buffer} (hab : Evolves a b) (hbc : Evolves b c) : Evolves a c := by
  induction hbc with
  | refl => exact hab
  | fill _ ih => exact .fill ih
  | edit text _ ih => exact .edit text ih

theorem path_eq {buffer later : Buffer} (h : Evolves buffer later) : later.path = buffer.path := by
  induction h with
  | refl => rfl
  | fill _ ih => exact ih
  | edit _ _ ih => exact ih

theorem chosen?_eq {buffer later : Buffer} (h : Evolves buffer later) :
    later.chosen? = buffer.chosen? := by
  induction h with
  | refl => rfl
  | fill _ ih => exact ih
  | edit _ _ ih => exact ih

end Evolves

theorem resolve_evolves (buffer : Buffer) (path : Path) :
    Evolves buffer (buffer.resolve path).2 := by
  rw [resolve_eq]
  show Evolves buffer (if path.keys = [] then buffer else buffer.filled)
  split
  · exact .refl
  · exact .fill .refl

theorem Request.evolves {α : Type} (request : Request α) (buffer : Buffer) :
    Evolves buffer (request.perform buffer).2 := by
  cases request with
  | setText text => exact .edit text .refl
  | text => exact .refl
  | path => exact .refl
  | grammar => exact .refl
  | isEligible => exact .refl
  | lineCount =>
      rw [perform, lineCount_eq]
      exact .fill .refl
  | tokensForLine line =>
      rw [perform, tokensForLine_eq]
      exact .fill .refl
  | resolve path => exact resolve_evolves buffer path

/-- The tokens that the buffer keeps, if any, are those of its text in its grammar. -/
def IsCurrent (buffer : Buffer) : Prop :=
  buffer.cached? = none ∨ buffer.cached? = some (buffer.text.tokenize buffer.grammar)

theorem isCurrent_iff {buffer : Buffer} :
    buffer.IsCurrent ↔ buffer.document = buffer.text.tokenize buffer.grammar := by
  rw [IsCurrent, document]
  cases buffer.cached? with
  | none => simp
  | some kept => simp

/-- The tokens that the buffer answers from are those of its text, in the grammar they say. -/
def IsFaithful (buffer : Buffer) : Prop :=
  buffer.document = buffer.text.tokenize buffer.document.grammar

theorem IsCurrent.document_grammar {buffer : Buffer} (h : buffer.IsCurrent) :
    buffer.document.grammar = buffer.grammar := by
  rw [isCurrent_iff.mp h, Text.tokenize_grammar]

theorem IsCurrent.isFaithful {buffer : Buffer} (h : buffer.IsCurrent) : buffer.IsFaithful := by
  rw [IsFaithful, h.document_grammar]
  exact isCurrent_iff.mp h

theorem Evolves.isCurrent {buffer later : Buffer} (h : Evolves buffer later)
    (hcurrent : buffer.IsCurrent) : later.IsCurrent := by
  induction h with
  | refl => exact hcurrent
  | fill _ ih =>
      have hdocument := isCurrent_iff.mp ih
      exact isCurrent_iff.mpr hdocument
  | edit _ _ _ => exact Or.inl rfl

/-- Tokens stay in the grammar they are in, until they are made anew. -/
theorem Evolves.document_grammar {buffer later : Buffer} (h : Evolves buffer later) :
    later.document.grammar = buffer.document.grammar ∨
      later.document.grammar = later.grammar := by
  induction h with
  | refl => exact Or.inl rfl
  | fill _ ih => exact ih
  | edit _ _ _ => exact Or.inr (IsCurrent.document_grammar (Or.inl rfl))

theorem Evolves.isFaithful {buffer later : Buffer} (h : Evolves buffer later)
    (hfaithful : buffer.IsFaithful) : later.IsFaithful := by
  induction h with
  | refl => exact hfaithful
  | fill _ ih => exact ih
  | edit _ _ _ => exact IsCurrent.isFaithful (Or.inl rfl)

end Buffer

end ApiLint
