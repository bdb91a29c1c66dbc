import ApiLint.CommandLine.Run
import ApiLint.Proofs.Lint.Shown
import ApiLint.Proofs.Validator

/-!
# The files of a run

A run reads every file twice, once into a buffer and once for the schema, and both times gets
the same. The schema never touches the buffer, so no answer is thrown away, and what it finds has
details, so a rejected file never ends up with an empty report (`lintFile_of_readable`).

What comes of all files is their reports, unless the schema cannot be loaded or a file cannot be
read (`lintAll_cases`). It is a matter of the files and the schema alone (`lintAll_congr`), and
the files that have diagnostics in the end are those that the schema rejects
(`filePath_iff_of_lintAll`).
-/

namespace ApiLint

/-- A file that holds a text is read as that text. -/
theorem Files.readText_of_read {files : Files} {name : FileName} {text : String}
    (h : files.read name = .ok text.toUTF8) : files.readText name = .ok text := by
  have htext : String.fromUTF8? text.toUTF8 = some text := by
    rw [String.fromUTF8?]
    exact dif_pos text.isValidUTF8
  simp only [Files.readText, h, htext]

/-- What linting comes to is a matter of the validator's work on the document of the buffer. -/
theorem Buffer.outcome_lint_congr {buffer : Buffer} {first second : Validator}
    {options others : ValidationOptions}
    (h : first buffer.path options = second buffer.path others) :
    (buffer.lint first options).outcome = (buffer.lint second others).outcome := by
  cases heligible : buffer.isEligible with
  | false => rw [lint_of_not_eligible heligible, lint_of_not_eligible heligible]
  | true => rw [lint_of_eligible heligible, lint_of_eligible heligible, h]

/-- All diagnostics of an error are about the file that they were made for. -/
theorem ValidationError.filePath_of_mem_diagnostics {error : ValidationError} {path : FileName}
    {text : Text} {source : TokenSource} {diagnostic : Diagnostic}
    (h : diagnostic ∈ error.diagnostics path text source) : diagnostic.filePath = path := by
  cases hdetails : error.details? with
  | none =>
      rw [diagnostics_of_no_details hdetails, List.mem_singleton] at h
      rw [h]
  | some details =>
      rw [diagnostics_of_details hdetails] at h
      obtain ⟨entry, _, rfl⟩ := List.mem_map.mp h
      rfl

/-- Linting makes diagnostics about the file of the buffer only. -/
theorem Buffer.filePath_of_lint {buffer : Buffer} {validator : Validator}
    {options : ValidationOptions} {diagnostics : List Diagnostic}
    (h : (buffer.lint validator options).outcome = .messages diagnostics) :
    ∀ diagnostic ∈ diagnostics, diagnostic.filePath = buffer.path := by
  cases heligible : buffer.isEligible with
  | false =>
      rw [lint_of_not_eligible heligible] at h
      cases h
      exact fun _ hmem => absurd hmem List.not_mem_nil
  | true =>
      rw [lint_of_eligible heligible] at h
      obtain ⟨verdict, hverdict⟩ : ∃ verdict,
        verdict = ((validator buffer.path options).run buffer).1 := ⟨_, rfl⟩
      obtain ⟨after, hafter⟩ : ∃ after,
        after = ((validator buffer.path options).run buffer).2 := ⟨_, rfl⟩
      have hpath : after.path = buffer.path :=
        hafter ▸ ((validator buffer.path options).evolves buffer).path_eq
      rw [← hverdict, ← hafter] at h
      by_cases htext : after.text = buffer.text
      · cases verdict with
        | ok _ =>
            rw [conclude_ok htext] at h
            cases h
            exact fun _ hmem => absurd hmem List.not_mem_nil
        | error error =>
            obtain ⟨later, hlater, _⟩ := conclude_error htext error
            rw [hlater] at h
            cases h
            exact fun _ hmem => (ValidationError.filePath_of_mem_diagnostics hmem).trans hpath
      · rw [conclude_of_ne htext] at h
        cases h

namespace CommandLine

/-- The schema to check by: that of a file, or else the one for Swagger documents. -/
def Uses (files : Files) (schema? : Option FileName) (source : Schema.Source) : Prop :=
  match schema? with
  | some path => files.schema path = .ok source
  | none => source = .swagger

/-- A file has a text that is worth checking, and the schema rejects it. -/
def Rejects (files : Files) (schema? : Option FileName) (options : ValidationOptions)
    (path : FileName) : Prop :=
  ∃ source text error, Uses files schema? source ∧ files.readText path = .ok text ∧
    Text.isEligible text.toList = true ∧
    source.validateText path.shown.toList text.toList options = .error error

section

variable {files others : Files} {schema? : Option FileName} {source : Schema.Source}
  {options : ValidationOptions}

theorem loadSchema_eq_ok_iff :
    loadSchema files schema? = .ok source ↔ Uses files schema? source := by
  rw [loadSchema.eq_def, Uses.eq_def]
  cases schema? with
  | none => simp [eq_comm]
  | some path => cases hschema : files.schema path <;> simp [Except.mapError, hschema]

theorem exists_loadSchema_eq_error_iff : (∃ error, loadSchema files schema? = .error error) ↔
    ∃ path error, schema? = some path ∧ files.schema path = .error error := by
  rw [loadSchema.eq_def]
  cases schema? with
  | none => simp
  | some path => cases hschema : files.schema path <;> simp [Except.mapError, hschema]

theorem rejects_iff (hsource : loadSchema files schema? = .ok source) {path : FileName}
    {text : String} (hread : files.readText path = .ok text) :
    Rejects files schema? options path ↔ Text.isEligible text.toList = true ∧
      ∃ error, source.validateText path.shown.toList text.toList options = .error error := by
  constructor
  · rintro ⟨other, content, error, hother, hcontent, heligible, herror⟩
    cases hsource.symm.trans (loadSchema_eq_ok_iff.mpr hother)
    cases hread.symm.trans hcontent
    exact ⟨heligible, error, herror⟩
  · rintro ⟨heligible, error, herror⟩
    exact ⟨source, text, error, loadSchema_eq_ok_iff.mp hsource, hread, heligible, herror⟩

/-- A file that can be read is linted to diagnostics, to some exactly if the schema rejects it. -/
theorem exists_lint_ofSource {path : FileName} {text : String}
    (hread : files.readText path = .ok text) (source : Schema.Source)
    (options : ValidationOptions) :
    ∃ diagnostics, ((Buffer.new path text.toList).lint (.ofSource source files)
        options).outcome = .messages diagnostics ∧
      (diagnostics = [] ↔ ¬ (Text.isEligible text.toList = true ∧
        ∃ error, source.validateText path.shown.toList text.toList options = .error error)) := by
  let buffer := Buffer.new path text.toList
  have hrun : (Validator.ofSource source files buffer.path options).run buffer =
      (source.validateText path.shown.toList text.toList options, buffer) := by
    show Review.run (.answer _) buffer = _
    rw [Review.run, show buffer.path = path from rfl, hread]
  have hsame : ((Validator.ofSource source files buffer.path options).run buffer).2.text =
      buffer.text := congrArg (·.2.text) hrun
  obtain ⟨diagnostics, houtcome, hnil⟩ := Buffer.exists_lint_eq_messages hsame
  refine ⟨diagnostics, houtcome, hnil.trans ?_⟩
  rw [hrun, show buffer.isEligible = Text.isEligible text.toList from rfl]
  cases hverdict : source.validateText path.shown.toList text.toList options with
  | ok _ => simp
  | error error =>
      have hdetails : ∀ message, error ≠ .invalid message [] := by
        rintro message rfl
        exact (Schema.sound_of_verdictOn_eq_invalid hverdict).1 rfl
      simp [hdetails]

theorem lintFile_of_unreadable {path : FileName} {error : FileError}
    (h : files.readText path = .error error) (source : Schema.Source)
    (options : ValidationOptions) :
    lintFile files source options path = .error (.unreadable path error) := by
  rw [lintFile, h]

/-- A file that can be read has a report, with the name of the file as it is shown and diagnostics
that are all about that file. -/
theorem exists_lintFile_eq_ok {path : FileName} {text : String}
    (hread : files.readText path = .ok text) (source : Schema.Source)
    (options : ValidationOptions) :
    ∃ report, lintFile files source options path = .ok report ∧
      report.fileName = path.shown ∧
      (∀ diagnostic ∈ report.diagnostics, diagnostic.filePath = path) ∧
      (report.isValid = true ↔ ¬ (Text.isEligible text.toList = true ∧
        ∃ error, source.validateText path.shown.toList text.toList options = .error error)) := by
  obtain ⟨diagnostics, houtcome, hnil⟩ := exists_lint_ofSource hread source options
  refine ⟨⟨diagnostics, text.toList, path.shown⟩, ?_, rfl, Buffer.filePath_of_lint houtcome, ?_⟩
  · rw [lintFile, hread]
    dsimp only
    rw [houtcome]
  · rw [← hnil]
    exact List.isEmpty_iff

theorem lintFile_of_readable (hsource : loadSchema files schema? = .ok source)
    {path : FileName} {text : String} (hread : files.readText path = .ok text)
    (options : ValidationOptions) :
    ∃ report, lintFile files source options path = .ok report ∧
      (∀ diagnostic ∈ report.diagnostics, diagnostic.filePath = path) ∧
      (report.isValid = true ↔ ¬ Rejects files schema? options path) := by
  obtain ⟨report, hreport, _, hpath, hvalid⟩ := exists_lintFile_eq_ok hread source options
  exact ⟨report, hreport, hpath, by rw [rejects_iff hsource hread, hvalid]⟩

/-- What linting a file gives depends on the text of that file alone, and on what is asked for no
more than the schema does. -/
theorem lintFile_congr {path : FileName} {given : ValidationOptions}
    (h : others.readText path = files.readText path) (hoptions : given.schema = options.schema)
    (source : Schema.Source) :
    lintFile others source given path = lintFile files source options path := by
  rw [lintFile, lintFile, h]
  cases hread : files.readText path with
  | error error => rfl
  | ok text =>
      have hsame : Validator.ofSource source others path given =
          Validator.ofSource source files path options := by
        rw [Validator.ofSource, Validator.ofSource, h, hread]
        dsimp only [Schema.Source.validateText]
        rw [Schema.verdictOn_congr_schema hoptions]
      dsimp only
      rw [Buffer.outcome_lint_congr hsame]

/-- Linting stops at a file that cannot be read. -/
theorem lintFiles_of_unreadable {paths : List FileName} {path : FileName} {error : FileError}
    (hmem : path ∈ paths) (h : files.readText path = .error error) (source : Schema.Source)
    (options : ValidationOptions) :
    ∃ error, lintFiles files source options paths = .error error := by
  induction paths with
  | nil => cases hmem
  | cons first rest ih =>
      rw [lintFiles, List.mapM_cons]
      cases hfirst : lintFile files source options first with
      | error error => exact ⟨error, rfl⟩
      | ok report =>
          rcases List.mem_cons.mp hmem with rfl | hrest
          · rw [lintFile_of_unreadable h] at hfirst
            cases hfirst
          · obtain ⟨error, herror⟩ := ih hrest
            rw [lintFiles] at herror
            exact ⟨error, by rw [herror]; rfl⟩

theorem lintFiles_congr {given : ValidationOptions} (h : given.schema = options.schema)
    (source : Schema.Source) (paths : List FileName) :
    lintFiles files source given paths = lintFiles files source options paths := by
  have hfile : lintFile files source given = lintFile files source options :=
    funext fun _ => lintFile_congr rfl h source
  rw [lintFiles, lintFiles, hfile]

/-- All files are linted if all can be read. Then the diagnostics of the reports are about files
that are rejected, and every such file has some. -/
theorem lintFiles_of_readable (hsource : loadSchema files schema? = .ok source)
    {paths : List FileName} (hread : ∀ path ∈ paths, ∃ text, files.readText path = .ok text)
    (options : ValidationOptions) :
    ∃ reports, lintFiles files source options paths = .ok reports ∧
      ∀ path, (∃ diagnostic ∈ reports.flatMap (·.diagnostics), diagnostic.filePath = path) ↔
        path ∈ paths ∧ Rejects files schema? options path := by
  induction paths with
  | nil => exact ⟨[], rfl, by simp⟩
  | cons first rest ih =>
      obtain ⟨text, htext⟩ := hread first List.mem_cons_self
      obtain ⟨report, hreport, hfirst, hvalid⟩ := lintFile_of_readable hsource htext options
      obtain ⟨reports, hreports, hrest⟩ :=
        ih fun path hmem => hread path (List.mem_cons_of_mem _ hmem)
      rw [lintFiles] at hreports
      refine ⟨report :: reports, ?_, fun path => ?_⟩
      · rw [lintFiles, List.mapM_cons, hreport, hreports]
        rfl
      · have hown : (∃ diagnostic ∈ report.diagnostics, diagnostic.filePath = path) ↔
            path = first ∧ Rejects files schema? options first := by
          rw [← not_iff_comm.mp hvalid.symm, Report.isValid, List.isEmpty_iff]
          constructor
          · rintro ⟨diagnostic, hmem, rfl⟩
            exact ⟨hfirst _ hmem, List.ne_nil_of_mem hmem⟩
          · rintro ⟨rfl, hne⟩
            obtain ⟨diagnostic, hmem⟩ := List.exists_mem_of_ne_nil _ hne
            exact ⟨diagnostic, hmem, hfirst _ hmem⟩
        rw [List.flatMap_cons, List.mem_cons, or_and_right, ← hrest path]
        simp only [List.mem_append, or_and_right, exists_or, hown]
        exact or_congr_left (and_congr_right fun h => by rw [h])

/-! ## All files of a run -/

theorem all_isValid_iff (reports : List Report) :
    reports.all (·.isValid) = true ↔ reports.flatMap (·.diagnostics) = [] := by
  rw [List.all_eq_true, List.flatMap_eq_nil_iff]
  exact forall₂_congr fun report _ => List.isEmpty_iff

theorem readText_eq_ok_of_not_error {path : FileName}
    (h : ¬ ∃ error, files.readText path = .error error) :
    ∃ text, files.readText path = .ok text := by
  cases hread : files.readText path with
  | ok text => exact ⟨text, rfl⟩
  | error error => exact absurd ⟨error, hread⟩ h

variable {arguments : Arguments} {config : Config}

theorem lintAll_of_source (hsource : loadSchema files (arguments.schema?.or config.schema?) =
      .ok source) :
    lintAll arguments config files =
      lintFiles files source (validationOptions arguments.structuralOnly) arguments.files := by
  rw [lintAll, hsource]
  rfl

/-- A run has no reports if the schema cannot be loaded or a file cannot be read. Otherwise it has
reports, and the files that their diagnostics are about are those that the schema rejects. -/
theorem lintAll_cases (arguments : Arguments) (config : Config) (files : Files) :
    let schema? := arguments.schema?.or config.schema?
    let fails := (∃ error, loadSchema files schema? = .error error) ∨
      ∃ path ∈ arguments.files, ∃ error, files.readText path = .error error
    (fails ∧ ∃ error, lintAll arguments config files = .error error) ∨
    (¬ fails ∧ ∃ reports, lintAll arguments config files = .ok reports ∧
      ∀ path, (∃ diagnostic ∈ reports.flatMap (·.diagnostics), diagnostic.filePath = path) ↔
        path ∈ arguments.files ∧
          Rejects files schema? (validationOptions arguments.structuralOnly) path) := by
  intro schema? fails
  cases hsource : loadSchema files schema? with
  | error error =>
      refine Or.inl ⟨Or.inl ⟨error, hsource⟩, error, ?_⟩
      rw [lintAll, show loadSchema files _ = _ from hsource]
      rfl
  | ok source =>
      rw [lintAll_of_source hsource]
      by_cases hread : ∃ path ∈ arguments.files, ∃ error, files.readText path = .error error
      · obtain ⟨path, hmem, error, herror⟩ := hread
        exact Or.inl ⟨Or.inr ⟨path, hmem, error, herror⟩,
          lintFiles_of_unreadable hmem herror source _⟩
      · refine Or.inr ⟨?_, lintFiles_of_readable hsource (fun path hmem => ?_) _⟩
        · rintro (⟨error, herror⟩ | hunreadable)
          · cases hsource.symm.trans herror
          · exact hread hunreadable
        · exact readText_eq_ok_of_not_error fun herror => hread ⟨path, hmem, herror⟩

theorem filePath_iff_of_lintAll {reports : List Report}
    (h : lintAll arguments config files = .ok reports) (path : FileName) :
    (∃ diagnostic ∈ reports.flatMap (·.diagnostics), diagnostic.filePath = path) ↔
      path ∈ arguments.files ∧ Rejects files (arguments.schema?.or config.schema?)
        (validationOptions arguments.structuralOnly) path := by
  rcases lintAll_cases arguments config files with ⟨_, error, herror⟩ | ⟨_, others, hothers, hpath⟩
  · cases h.symm.trans herror
  · cases h.symm.trans hothers
    exact hpath path

theorem all_isValid_iff_of_lintAll {reports : List Report}
    (h : lintAll arguments config files = .ok reports) :
    reports.all (·.isValid) = true ↔ ¬ ∃ path ∈ arguments.files,
      Rejects files (arguments.schema?.or config.schema?)
        (validationOptions arguments.structuralOnly) path := by
  rw [all_isValid_iff, List.eq_nil_iff_forall_not_mem]
  constructor
  · rintro hnone ⟨path, hmem, hrejects⟩
    obtain ⟨diagnostic, hdiagnostic, _⟩ := (filePath_iff_of_lintAll h path).mpr ⟨hmem, hrejects⟩
    exact hnone diagnostic hdiagnostic
  · intro hnone diagnostic hdiagnostic
    obtain ⟨hmem, hrejects⟩ :=
      (filePath_iff_of_lintAll h diagnostic.filePath).mp ⟨diagnostic, hdiagnostic, rfl⟩
    exact hnone ⟨_, hmem, hrejects⟩

/-- The reports are a matter of the files and the schema. -/
theorem lintAll_congr {given : Arguments} {elsewhere : Config}
    (hfiles : given.files = arguments.files)
    (hschema : given.schema?.or elsewhere.schema? = arguments.schema?.or config.schema?) :
    lintAll given elsewhere files = lintAll arguments config files := by
  rw [lintAll, lintAll, hschema, hfiles]
  exact bind_congr fun source => lintFiles_congr (by rfl) source arguments.files

theorem execute_of_ok {words : List String} (h : readArguments words = .ok arguments)
    (environment : Environment) (files : Files) :
    execute words environment files =
      run arguments (.ofEnvironment environment) environment.isColoured files := by
  rw [execute, h]

end

end CommandLine

end ApiLint
