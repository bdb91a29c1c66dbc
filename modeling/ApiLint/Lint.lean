import ApiLint.Buffer
import ApiLint.Diagnostic
import ApiLint.Files
import ApiLint.Validator

/-!
# Linting a buffer

The text of a buffer is captured and, if it looks like an API description, a validator is
asked once. While its answer is pending the buffer may be asked and edited; if it then holds
another text, the answer is about a text that is gone and is thrown away. Otherwise an error
becomes diagnostics, placed by the tokens of the buffer.
-/

namespace ApiLint

/-- A validator at work: it answers, or it asks something of the buffer and goes on
according to what it is told. -/
inductive Review where
  | answer (verdict : Verdict)
  | ask {α : Type} (request : Buffer.Request α) (next : α → Review)

/-- The answer a validator comes to, and the buffer after its work. -/
def Review.run : Review → Buffer → Verdict × Buffer
  | .answer verdict, buffer => (verdict, buffer)
  | .ask request next, buffer =>
    let (reply, buffer) := request.perform buffer
    (next reply).run buffer

/-- A validator: asked about the document at a path, it may work on the buffer before it
answers. -/
abbrev Validator := (path : FileName) → ValidationOptions → Review

/-- What linting comes to: diagnostics, or nothing because the text has changed. -/
inductive LintOutcome where
  | messages (diagnostics : List Diagnostic)
  | noUpdate
  deriving DecidableEq, Repr, Inhabited

/-- What linting comes to, how the validator was asked, and the buffer afterwards. -/
structure Linted where
  outcome : LintOutcome
  calls : List (FileName × ValidationOptions)
  buffer : Buffer

/-- A buffer that is being linted, and how the validator has been asked so far. -/
structure Consultation where
  calls : List (FileName × ValidationOptions)
  buffer : Buffer

/-- Asks a validator about the document of a buffer. -/
def Consultation.ask (before : Consultation) (validator : Validator)
    (options : ValidationOptions) : Verdict × Consultation :=
  let path := before.buffer.path
  let (verdict, buffer) := (validator path options).run before.buffer
  (verdict, ⟨before.calls ++ [(path, options)], buffer⟩)

/-- The diagnostics of an error, placed by the tokens of the buffer. -/
def Buffer.diagnose (buffer : Buffer) (error : ValidationError) (text : Text) :
    List Diagnostic × Buffer :=
  error.diagnosticsBy (m := StateM Buffer) (fun path buffer => buffer.resolve path)
    buffer.path text buffer

/-- What a verdict about a text comes to in a buffer that may hold another text by now, and the
buffer afterwards. -/
def Buffer.conclude (buffer : Buffer) (captured : Text) (verdict : Verdict) :
    LintOutcome × Buffer :=
  if buffer.text ≠ captured then (.noUpdate, buffer)
  else
    match verdict with
    | .ok () => (.messages [], buffer)
    | .error error =>
      let (diagnostics, buffer) := buffer.diagnose error captured
      (.messages diagnostics, buffer)

def Buffer.lint (buffer : Buffer) (validator : Validator) (options : ValidationOptions) : Linted :=
  if buffer.isEligible then
    let (verdict, ⟨calls, after⟩) := Consultation.ask ⟨[], buffer⟩ validator options
    let (outcome, after) := after.conclude buffer.text verdict
    ⟨outcome, calls, after⟩
  else ⟨.messages [], [], buffer⟩

/-- What may be done with an open document: something is asked of the buffer, or it is
linted. -/
inductive Operation : Type → Type 1 where
  | ask {α : Type} (request : Buffer.Request α) : Operation α
  | lint (validator : Validator) (options : ValidationOptions) :
    Operation (LintOutcome × List (FileName × ValidationOptions))

namespace Operation

def perform {α : Type} : Operation α → Buffer → α × Buffer
  | .ask request, buffer => request.perform buffer
  | .lint validator options, buffer =>
    let linted := buffer.lint validator options
    ((linted.outcome, linted.calls), linted.buffer)

def performAll (operations : List (Sigma Operation)) (buffer : Buffer) : Buffer :=
  operations.foldl (fun buffer operation => (operation.2.perform buffer).2) buffer

end Operation

namespace Validator

/-- The validator that always answers the same. -/
def constant (verdict : Verdict) : Validator := fun _ _ => .answer verdict

/-- The validator that puts another text into the buffer before it answers. -/
def editing (replacement : Text) (verdict : Verdict) : Validator :=
  fun _ _ => .ask (.setText replacement) fun _ => .answer verdict

/-- The validator that checks the saved file, not the buffer, against a schema. -/
def ofSource (source : Schema.Source) (files : Files) : Validator := fun path options =>
  .answer <| match files.readText path with
    | .ok text => source.validateText path.shown.toList text.toList options
    | .error error => .error (.unreadable path.shown error.message)

end Validator

def Files.schema (files : Files) (name : FileName) : Except ValidationError Schema.Source := do
  let text ← (files.readText name).mapError fun error =>
    .badSchema s!"cannot read {name.shown}: {error.message}"
  let value ← (Json.read text).mapError fun error =>
    .badSchema s!"{name.shown} is not valid JSON: {error.message}"
  (Schema.Source.ofJson value).mapError fun error => .badSchema error.message

end ApiLint
