import ApiLint.Proofs.CommandLine

/-!
# The code a run ends with

Once a run has its reports, only showing them can fail, and it fails in two ways. A listing is
written, and what goes wrong with it is an error of the run (`Arguments.ListingFails`); all other
formats are printed, and a run that cannot print is cut off (`Arguments.PrintingFails`). If
neither happens the code tells whether there are diagnostics (`run_code_cases`).

What a run says to the error output, it says beside all that. An error output that takes less
than everything can cut a run off as well, and do nothing else (`run_code_eq_cutOff_or`), so the
code is looked at where the error output takes everything.

A listing has one need that nothing printed has: the names of files with diagnostics must be
texts. So the same files may come to another code in another format, where there is no fault of
any output.
-/

namespace ApiLint

/-- The same files, beside an error output that takes everything. -/
def Files.heard (files : Files) : Files := { files with say := fun _ => .ok () }

namespace CommandLine

/-- Where a listing is to go: to the output, unless a file is named. -/
def Arguments.ListsTo (arguments : Arguments) : Target → Prop
  | .output => arguments.output? = none ∨ arguments.output? = some "-"
  | .file name => arguments.output? = some name ∧ name ≠ "-"

/-- A listing is asked for, and its file cannot be created, or a file with diagnostics has a name
that is no text, or its target does not take all of it. -/
def Arguments.ListingFails (arguments : Arguments) (files : Files) (reports : List Report) : Prop :=
  let diagnostics := reports.flatMap (·.diagnostics)
  arguments.format = .json ∧
    ((∃ name error, arguments.ListsTo (.file name) ∧ files.create name = .error error) ∨
      (∃ diagnostic ∈ diagnostics, diagnostic.filePath.isText = false) ∨
      ∃ target fault, arguments.ListsTo target ∧
        files.write target (Diagnostic.listingOf diagnostics ++ "\n") = .error fault)

/-- There is something to print, and the output does not take all of it. -/
def Arguments.PrintingFails (arguments : Arguments) (coloured : Bool) (files : Files)
    (reports : List Report) : Prop :=
  ∃ text fault, text ≠ "" ∧ files.write .output text = .error fault ∧
    render reports arguments.format arguments.output? coloured arguments.quiet = .printed text

/-! ## Showing the reports -/

theorem attempt_of_ok {write : String → Except WriteFault Unit} {text : String}
    (h : write text = .ok ()) : attempt write text = (text, none) := by
  rw [attempt, h]
  split
  · next hempty => rw [String.isEmpty_iff.mp hempty]
  · rfl

theorem attempt_of_error {write : String → Except WriteFault Unit} {text : String}
    {fault : WriteFault} (hne : text ≠ "") (h : write text = .error fault) :
    attempt write text = (fault.taken, some fault) := by
  rw [attempt, h, if_neg fun hempty => hne (String.isEmpty_iff.mp hempty)]

theorem error_of_attempt {write : String → Except WriteFault Unit} {text : String}
    {fault : WriteFault} (h : (attempt write text).2 = some fault) : write text = .error fault := by
  rw [attempt] at h
  split at h
  · cases h
  · cases hwrite : write text with
    | ok _ =>
        rw [hwrite] at h
        cases h
    | error other =>
        rw [hwrite] at h
        cases h
        rfl

/-- Only the front of a listing never counts as all of it. -/
theorem exists_listingEnding_eq_failed (target : Target) (isWhole : Bool)
    {fault? : Option WriteFault} (h : isWhole = false ∨ fault?.isSome = true) :
    ∃ error, listingEnding target isWhole fault? = .failed error := by
  rw [listingEnding.eq_def]
  cases fault? with
  | none =>
      rcases h with rfl | h
      · exact ⟨_, rfl⟩
      · cases h
  | some fault =>
      dsimp only
      split
      · exact ⟨_, rfl⟩
      · split
        · exact ⟨_, rfl⟩
        · exact ⟨_, rfl⟩

theorem ending_listed_of_create_error {files : Files} {name : String} {error : FileError}
    (h : files.create name = .error error) (text : String) (isWhole : Bool) :
    ((Rendering.listed (.file name) text isWhole).deliver files).ending =
      .failed (.unwritable (.file name) error) := by
  rw [Rendering.deliver, h]

theorem ending_listed {files : Files} {target : Target}
    (h : ∀ name error, target = .file name → files.create name ≠ .error error) (text : String)
    (isWhole : Bool) :
    ((Rendering.listed target text isWhole).deliver files).ending =
      listingEnding target isWhole (attempt (files.write target) text).2 := by
  cases target with
  | output => rfl
  | file name =>
      cases hcreate : files.create name with
      | error error => exact absurd hcreate (h name error rfl)
      | ok _ => rw [Rendering.deliver, hcreate]

theorem exists_ending_front_eq_failed (files : Files) (target : Target) (front : String) :
    ∃ error, ((Rendering.listed target front false).deliver files).ending = .failed error := by
  by_cases hcreate : ∃ name error, target = .file name ∧ files.create name = .error error
  · obtain ⟨name, error, rfl, herror⟩ := hcreate
    exact ⟨_, ending_listed_of_create_error herror front false⟩
  · rw [ending_listed fun name error hfile herror => hcreate ⟨name, error, hfile, herror⟩]
    exact exists_listingEnding_eq_failed target false (Or.inl rfl)

theorem ending_printed (files : Files) (text : String) :
    (∃ fault, text ≠ "" ∧ files.write .output text = .error fault ∧
      ((Rendering.printed text).deliver files).ending = .cutOff fault.error) ∨
    ((∀ fault, text ≠ "" → files.write .output text ≠ .error fault) ∧
      ((Rendering.printed text).deliver files).ending = .complete) := by
  rw [Rendering.deliver]
  by_cases hempty : text = ""
  · subst hempty
    exact Or.inr ⟨fun _ hne => absurd rfl hne, rfl⟩
  · cases hwrite : files.write .output text with
    | ok _ =>
        rw [attempt_of_ok hwrite]
        exact Or.inr ⟨fun _ _ => nofun, rfl⟩
    | error fault =>
        rw [attempt_of_error hempty hwrite]
        exact Or.inl ⟨fault, hempty, rfl, rfl⟩

section

variable {arguments : Arguments} {config : Config} {coloured : Bool} {files : Files}
  {reports : List Report}

theorem render_json
    (h : ∀ diagnostic ∈ reports.flatMap (·.diagnostics), diagnostic.filePath.isText = true)
    (output? : Option String) (coloured quiet : Bool) :
    render reports .json output? coloured quiet = .listed (targetOf output?)
      (Diagnostic.listingOf (reports.flatMap (·.diagnostics)) ++ "\n") true := by
  rw [render]
  exact if_pos (List.all_eq_true.mpr h)

theorem exists_render_json_eq_front {diagnostic : Diagnostic}
    (hmem : diagnostic ∈ reports.flatMap (·.diagnostics))
    (h : diagnostic.filePath.isText = false) (output? : Option String) (coloured quiet : Bool) :
    ∃ front, render reports .json output? coloured quiet =
      .listed (targetOf output?) front false := by
  refine ⟨Diagnostic.brokenListing (reports.flatMap (·.diagnostics)), ?_⟩
  rw [render]
  refine if_neg fun hall => ?_
  cases h.symm.trans (List.all_eq_true.mp hall diagnostic hmem)

theorem listsTo_iff {target : Target} :
    arguments.ListsTo target ↔ targetOf arguments.output? = target := by
  rw [targetOf.eq_def]
  cases houtput : arguments.output? with
  | none =>
      cases target with
      | output => exact iff_of_true (Or.inl houtput) rfl
      | file name => simp [Arguments.ListsTo, houtput]
  | some given =>
      dsimp only
      split
      · next hhyphen => cases target <;> simp [Arguments.ListsTo, houtput, hhyphen, eq_comm]
      · next hname =>
          cases target with
          | output => simp [Arguments.ListsTo, houtput, hname]
          | file name =>
              simp only [Arguments.ListsTo, houtput, Option.some.injEq, Target.file.injEq]
              exact ⟨fun h => h.1, fun h => ⟨h, h ▸ hname⟩⟩

theorem listingFails_iff : arguments.ListingFails files reports ↔ arguments.format = .json ∧
    ((∃ name error, targetOf arguments.output? = .file name ∧ files.create name = .error error) ∨
      (∃ diagnostic ∈ reports.flatMap (·.diagnostics), diagnostic.filePath.isText = false) ∨
      ∃ fault, files.write (targetOf arguments.output?)
        (Diagnostic.listingOf (reports.flatMap (·.diagnostics)) ++ "\n") = .error fault) := by
  simp only [Arguments.ListingFails, listsTo_iff, exists_and_left, exists_eq_left']

theorem not_listingFails (h : arguments.format ≠ .json) : ¬ arguments.ListingFails files reports :=
  fun hfails => h hfails.1

theorem not_printingFails (h : arguments.format = .json) :
    ¬ arguments.PrintingFails coloured files reports := by
  rintro ⟨text, _, _, _, hprinted⟩
  rw [h, render] at hprinted
  split at hprinted
  · cases hprinted
  · cases hprinted

/-- A listing fails exactly if one of its needs is not met, and is shown otherwise. -/
theorem ending_of_json (h : arguments.format = .json) (coloured : Bool) (files : Files)
    (reports : List Report) :
    let ending := ((render reports arguments.format arguments.output? coloured
      arguments.quiet).deliver files).ending
    (arguments.ListingFails files reports ∧ ∃ error, ending = .failed error) ∨
      (¬ arguments.ListingFails files reports ∧ ending = .complete) := by
  intro ending
  obtain ⟨target, htarget⟩ : ∃ target, targetOf arguments.output? = target := ⟨_, rfl⟩
  have hending : ending = ((render reports .json arguments.output? coloured
      arguments.quiet).deliver files).ending := by
    show ((render reports arguments.format _ _ _).deliver files).ending = _
    rw [h]
  rw [listingFails_iff, htarget, hending]
  by_cases hname : ∃ diagnostic ∈ reports.flatMap (·.diagnostics),
      diagnostic.filePath.isText = false
  · refine Or.inl ⟨⟨h, Or.inr (Or.inl hname)⟩, ?_⟩
    obtain ⟨diagnostic, hmem, htext⟩ := hname
    obtain ⟨front, hfront⟩ :=
      exists_render_json_eq_front hmem htext arguments.output? coloured arguments.quiet
    rw [hfront]
    exact exists_ending_front_eq_failed files _ front
  have htexts : ∀ diagnostic ∈ reports.flatMap (·.diagnostics),
      diagnostic.filePath.isText = true := fun diagnostic hmem =>
    Bool.eq_true_of_not_eq_false fun htext => hname ⟨diagnostic, hmem, htext⟩
  rw [render_json htexts, htarget]
  by_cases hcreate : ∃ name error, target = .file name ∧ files.create name = .error error
  · refine Or.inl ⟨⟨h, Or.inl hcreate⟩, ?_⟩
    obtain ⟨name, error, rfl, herror⟩ := hcreate
    exact ⟨_, ending_listed_of_create_error herror _ _⟩
  rw [ending_listed fun name error hfile herror => hcreate ⟨name, error, hfile, herror⟩]
  cases hwrite : files.write target
      (Diagnostic.listingOf (reports.flatMap (·.diagnostics)) ++ "\n") with
  | ok _ =>
      refine Or.inr ⟨?_, by rw [attempt_of_ok hwrite]; rfl⟩
      rintro ⟨_, hfile | htext | ⟨fault, hfault⟩⟩
      · exact hcreate hfile
      · exact hname htext
      · cases hfault
  | error fault =>
      refine Or.inl ⟨⟨h, Or.inr (Or.inr ⟨fault, rfl⟩)⟩, ?_⟩
      rw [attempt_of_error (by simp) hwrite]
      exact exists_listingEnding_eq_failed target true (Or.inr rfl)

/-- What is printed is shown, or else the run is cut off. -/
theorem ending_of_printed {text : String} (h : render reports arguments.format arguments.output?
      coloured arguments.quiet = .printed text) (files : Files) :
    let ending := ((render reports arguments.format arguments.output? coloured
      arguments.quiet).deliver files).ending
    (arguments.PrintingFails coloured files reports ∧ ∃ error, ending = .cutOff error) ∨
      (¬ arguments.PrintingFails coloured files reports ∧ ending = .complete) := by
  intro ending
  have hending : ending = ((Rendering.printed text).deliver files).ending := by
    show ((render reports arguments.format _ _ _).deliver files).ending = _
    rw [h]
  rcases ending_printed files text with ⟨fault, hne, hfault, hcut⟩ | ⟨hwritten, hcomplete⟩
  · exact Or.inl ⟨⟨text, fault, hne, hfault, h⟩, fault.error, hending.trans hcut⟩
  · refine Or.inr ⟨?_, hending.trans hcomplete⟩
    rintro ⟨other, fault, hne, hfault, hother⟩
    cases h.symm.trans hother
    exact hwritten fault hne hfault

/-- How showing the reports ends. -/
theorem ending_cases (arguments : Arguments) (coloured : Bool) (files : Files)
    (reports : List Report) :
    let ending := ((render reports arguments.format arguments.output? coloured
      arguments.quiet).deliver files).ending
    let listingFails := arguments.ListingFails files reports
    let printingFails := arguments.PrintingFails coloured files reports
    (listingFails ∧ ¬ printingFails ∧ ∃ error, ending = .failed error) ∨
      (printingFails ∧ ¬ listingFails ∧ ∃ error, ending = .cutOff error) ∨
      (¬ listingFails ∧ ¬ printingFails ∧ ending = .complete) := by
  intro ending listingFails printingFails
  by_cases hformat : arguments.format = .json
  · rcases ending_of_json hformat coloured files reports with
      ⟨hfails, herror⟩ | ⟨hlisted, hcomplete⟩
    · exact Or.inl ⟨hfails, not_printingFails hformat, herror⟩
    · exact Or.inr (Or.inr ⟨hlisted, not_printingFails hformat, hcomplete⟩)
  · obtain ⟨text, hrender⟩ : ∃ text, render reports arguments.format arguments.output? coloured
        arguments.quiet = .printed text := by
      cases hother : arguments.format with
      | pretty => exact ⟨_, rfl⟩
      | table => exact ⟨_, rfl⟩
      | json => exact absurd hother hformat
    rcases ending_of_printed hrender files with ⟨hfails, hcut⟩ | ⟨hprinted, hcomplete⟩
    · exact Or.inr (Or.inl ⟨hfails, not_listingFails hformat, hcut⟩)
    · exact Or.inr (Or.inr ⟨not_listingFails hformat, hprinted, hcomplete⟩)

/-! ## The code -/

theorem code_saying (completion : Completion) (files : Files) (text : String) :
    ((completion.saying files text).code = cutOffCode ∧
        ∃ text fault, files.say text = .error fault) ∨
      (completion.saying files text).code = completion.code := by
  rw [Completion.saying]
  cases hsay : attempt files.say text with
  | mk taken fault? =>
      cases fault? with
      | none => exact Or.inr rfl
      | some fault => exact Or.inl ⟨rfl, text, fault, error_of_attempt (congrArg Prod.snd hsay)⟩

theorem code_saying_heard (completion : Completion) (files : Files) (text : String) :
    (completion.saying files.heard text).code = completion.code := by
  rw [Completion.saying, attempt_of_ok rfl]
  rfl

theorem run_code_of_error {error : RunError} (h : lintAll arguments config files = .error error)
    (coloured : Bool) : (run arguments config coloured files.heard).code = 2 := by
  rw [run, attempt_of_ok rfl, show lintAll arguments config files.heard = _ from h]
  exact code_saying_heard ⟨2, "", _, none⟩ files _

/-- A run that has its reports ends the way that showing them does. -/
theorem run_of_ok (h : lintAll arguments config files = .ok reports) (coloured : Bool) :
    let delivery := (render reports arguments.format arguments.output? coloured
      arguments.quiet).deliver files
    let completion := run arguments config coloured files.heard
    completion.code = (match delivery.ending with
      | .complete => if reports.all (·.isValid) then 0 else 1
      | .failed _ => 2
      | .cutOff _ => cutOffCode) ∧
    completion.stdout = delivery.stdout ∧ completion.written? = delivery.written? := by
  intro delivery completion
  have hrun : completion = _ := run.eq_1 arguments config coloured files.heard
  rw [attempt_of_ok rfl, show lintAll arguments config files.heard = _ from h] at hrun
  simp only [Option.isSome_none, Bool.false_eq_true, if_false] at hrun
  rw [hrun, show (render reports _ _ _ _).deliver files.heard = delivery from rfl]
  cases delivery.ending with
  | complete => exact ⟨code_saying_heard _ _ _, rfl, rfl⟩
  | failed error => exact ⟨code_saying_heard _ _ _, rfl, rfl⟩
  | cutOff error => exact ⟨code_saying_heard _ _ _, rfl, rfl⟩

/-- An error output that takes less than everything changes the code in one way only. -/
theorem run_code_eq_cutOff_or (arguments : Arguments) (config : Config) (coloured : Bool)
    (files : Files) :
    let code := (run arguments config coloured files).code
    (code = cutOffCode ∧ ∃ text fault, files.say text = .error fault) ∨
      code = (run arguments config coloured files.heard).code := by
  intro code
  cases hfault : (attempt files.say (debugText arguments config files)).2 with
  | some fault =>
      refine Or.inl ⟨?_, _, fault, error_of_attempt hfault⟩
      show (run arguments config coloured files).code = cutOffCode
      rw [run]
      simp only [hfault, Option.isSome_some, if_true]
  | none =>
      have hrun := run.eq_1 arguments config coloured files
      simp only [hfault, Option.isSome_none, Bool.false_eq_true, if_false] at hrun
      show (run arguments config coloured files).code = cutOffCode ∧ _ ∨
        (run arguments config coloured files).code = _
      rw [hrun]
      cases hlinted : lintAll arguments config files with
      | error error =>
          rw [run_code_of_error hlinted]
          exact code_saying _ _ _
      | ok reports =>
          rw [(run_of_ok hlinted coloured).1]
          dsimp only
          cases ((render reports arguments.format arguments.output? coloured
            arguments.quiet).deliver files).ending with
          | complete => exact code_saying _ _ _
          | failed error => exact code_saying _ _ _
          | cutOff error => exact code_saying _ _ _

/-- The codes of a run, and what each of them means. -/
theorem run_code_cases (arguments : Arguments) (config : Config) (coloured : Bool)
    (files : Files) :
    let code := (run arguments config coloured files.heard).code
    (code = 2 ∧ ∃ error, lintAll arguments config files = .error error) ∨
    ∃ reports, lintAll arguments config files = .ok reports ∧
      let listingFails := arguments.ListingFails files reports
      let printingFails := arguments.PrintingFails coloured files reports
      (code = 2 ∧ listingFails ∧ ¬ printingFails) ∨
      (code = cutOffCode ∧ printingFails ∧ ¬ listingFails) ∨
      (code = (if reports.all (·.isValid) then 0 else 1) ∧ ¬ listingFails ∧ ¬ printingFails) := by
  intro code
  cases hlinted : lintAll arguments config files with
  | error error => exact Or.inl ⟨run_code_of_error hlinted coloured, error, rfl⟩
  | ok reports =>
      have hcode := (run_of_ok hlinted coloured).1
      refine Or.inr ⟨reports, rfl, ?_⟩
      rcases ending_cases arguments coloured files reports with
        ⟨hlisting, hprinting, error, hending⟩ | ⟨hprinting, hlisting, error, hending⟩ |
        ⟨hlisting, hprinting, hending⟩
      · exact Or.inl ⟨hcode.trans (by rw [hending]), hlisting, hprinting⟩
      · exact Or.inr (Or.inl ⟨hcode.trans (by rw [hending]), hprinting, hlisting⟩)
      · exact Or.inr (Or.inr ⟨hcode.trans (by rw [hending]), hlisting, hprinting⟩)

theorem exists_lintAll_eq_error_iff (arguments : Arguments) (config : Config) (files : Files) :
    (∃ error, lintAll arguments config files = .error error) ↔
      (∃ path error, arguments.schema?.or config.schema? = some path ∧
          files.schema path = .error error) ∨
        ∃ path ∈ arguments.files, ∃ error, files.readText path = .error error := by
  rw [← exists_loadSchema_eq_error_iff]
  rcases lintAll_cases arguments config files with ⟨hfails, herror⟩ | ⟨hreads, reports, hreports, _⟩
  · exact iff_of_true herror hfails
  · exact iff_of_false (fun ⟨error, herror⟩ => by cases hreports.symm.trans herror) hreads

theorem run_code_eq_two_iff (arguments : Arguments) (config : Config) (coloured : Bool)
    (files : Files) :
    (run arguments config coloured files.heard).code = 2 ↔
      (∃ error, lintAll arguments config files = .error error) ∨
        ∃ reports, lintAll arguments config files = .ok reports ∧
          arguments.ListingFails files reports := by
  rcases run_code_cases arguments config coloured files with
    ⟨hcode, herror⟩ | ⟨reports, hreports, hcases⟩
  · exact iff_of_true hcode (Or.inl herror)
  · rw [hreports]
    simp only [reduceCtorEq, exists_const, false_or, Except.ok.injEq, exists_eq_left']
    rcases hcases with ⟨hcode, hlisting, _⟩ | ⟨hcode, _, hlisting⟩ | ⟨hcode, hlisting, _⟩
    · exact iff_of_true hcode hlisting
    · exact iff_of_false (by rw [hcode]; decide) hlisting
    · exact iff_of_false (by rw [hcode]; split <;> decide) hlisting

theorem run_code_eq_cutOff_iff (arguments : Arguments) (config : Config) (coloured : Bool)
    (files : Files) :
    (run arguments config coloured files.heard).code = cutOffCode ↔
      ∃ reports, lintAll arguments config files = .ok reports ∧
        arguments.PrintingFails coloured files reports := by
  rcases run_code_cases arguments config coloured files with
    ⟨hcode, error, herror⟩ | ⟨reports, hreports, hcases⟩
  · refine iff_of_false (by rw [hcode]; decide) ?_
    rintro ⟨reports, hreports, _⟩
    cases hreports.symm.trans herror
  · rw [hreports]
    simp only [Except.ok.injEq, exists_eq_left']
    rcases hcases with ⟨hcode, _, hprinting⟩ | ⟨hcode, hprinting, _⟩ | ⟨hcode, _, hprinting⟩
    · exact iff_of_false (by rw [hcode]; decide) hprinting
    · exact iff_of_true hcode hprinting
    · exact iff_of_false (by rw [hcode]; split <;> decide) hprinting

/-- With nothing against it, the code tells whether the schema rejects a file. -/
theorem run_code_of_shown (htwo : (run arguments config coloured files.heard).code ≠ 2)
    (hcut : (run arguments config coloured files.heard).code ≠ cutOffCode) :
    let rejected := ∃ path ∈ arguments.files, Rejects files (arguments.schema?.or config.schema?)
      (validationOptions arguments.structuralOnly) path
    ((run arguments config coloured files.heard).code = 1 ↔ rejected) ∧
      ((run arguments config coloured files.heard).code = 0 ↔ ¬ rejected) := by
  intro rejected
  rcases run_code_cases arguments config coloured files with
    ⟨hcode, _⟩ | ⟨reports, hreports, ⟨hcode, _⟩ | ⟨hcode, _⟩ | ⟨hcode, _⟩⟩
  · exact absurd hcode htwo
  · exact absurd hcode htwo
  · exact absurd hcode hcut
  · have hvalid : reports.all (·.isValid) = true ↔ ¬ rejected := all_isValid_iff_of_lintAll hreports
    by_cases hrejected : rejected
    · have hone : (run arguments config coloured files.heard).code = 1 :=
        hcode.trans (if_neg fun hall => hvalid.mp hall hrejected)
      exact ⟨iff_of_true hone hrejected,
        iff_of_false (by rw [hone]; decide) (not_not_intro hrejected)⟩
    · have hzero : (run arguments config coloured files.heard).code = 0 :=
        hcode.trans (if_pos (hvalid.mpr hrejected))
      exact ⟨iff_of_false (by rw [hzero]; decide) hrejected, iff_of_true hzero hrejected⟩

/-- Two runs over the same files with the same schema end alike, unless showing the reports fails
in one of them only. -/
theorem run_code_congr {given : Arguments} {elsewhere : Config} {tinted : Bool}
    (hfiles : given.files = arguments.files)
    (hschema : given.schema?.or elsewhere.schema? = arguments.schema?.or config.schema?)
    (hfails : ∀ reports, lintAll arguments config files = .ok reports →
      (given.ListingFails files reports ↔ arguments.ListingFails files reports) ∧
      (given.PrintingFails tinted files reports ↔ arguments.PrintingFails coloured files reports)) :
    (run given elsewhere tinted files.heard).code =
      (run arguments config coloured files.heard).code := by
  have hlinted : lintAll given elsewhere files = lintAll arguments config files :=
    lintAll_congr hfiles hschema
  have hgiven := run_code_cases given elsewhere tinted files
  rw [hlinted] at hgiven
  rcases run_code_cases arguments config coloured files with
    ⟨hcode, error, herror⟩ | ⟨reports, hreports, hcases⟩
  · rw [herror] at hgiven
    rcases hgiven with ⟨hsame, _⟩ | ⟨_, hok, _⟩
    · rw [hsame, hcode]
    · cases hok
  · rw [hreports] at hgiven
    rcases hgiven with ⟨_, _, herror⟩ | ⟨others, hothers, hgiven⟩
    · cases herror
    · cases hothers
      obtain ⟨hlisting, hprinting⟩ := hfails reports hreports
      simp only [hlisting, hprinting] at hgiven
      -- Both codes are told by the same two facts.
      grind

/-! ## Outputs that take everything -/

theorem listingFails_iff_of_taken (hcreate : ∀ name, files.create name = .ok ())
    (hwrite : ∀ target text, files.write target text = .ok ()) :
    arguments.ListingFails files reports ↔ arguments.format = .json ∧
      ∃ diagnostic ∈ reports.flatMap (·.diagnostics), diagnostic.filePath.isText = false := by
  refine and_congr_right fun _ => ⟨?_, fun h => Or.inr (Or.inl h)⟩
  rintro (⟨name, error, _, herror⟩ | htext | ⟨target, fault, _, hfault⟩)
  · cases (hcreate name).symm.trans herror
  · exact htext
  · cases (hwrite _ _).symm.trans hfault

theorem not_printingFails_of_taken (hwrite : ∀ target text, files.write target text = .ok ()) :
    ¬ arguments.PrintingFails coloured files reports := by
  rintro ⟨text, fault, _, hfault, _⟩
  cases (hwrite _ _).symm.trans hfault

/-- If all outputs take everything, only a name that is no text can keep the reports of a run from
being shown, and that in a listing alone. -/
theorem run_code_of_taken (hcreate : ∀ name, files.create name = .ok ())
    (hwrite : ∀ target text, files.write target text = .ok ()) (arguments : Arguments)
    (config : Config) (coloured : Bool) :
    let code := (run arguments config coloured files.heard).code
    code ≠ cutOffCode ∧
      (code = 2 ↔ (∃ error, lintAll arguments config files = .error error) ∨
        arguments.format = .json ∧ ∃ path ∈ arguments.files, path.isText = false ∧
          Rejects files (arguments.schema?.or config.schema?)
            (validationOptions arguments.structuralOnly) path) := by
  intro code
  constructor
  · rw [Ne, run_code_eq_cutOff_iff]
    rintro ⟨reports, _, hprinting⟩
    exact not_printingFails_of_taken hwrite hprinting
  · refine (run_code_eq_two_iff arguments config coloured files).trans ?_
    cases hlinted : lintAll arguments config files with
    | error error => exact iff_of_true (Or.inl ⟨error, rfl⟩) (Or.inl ⟨error, rfl⟩)
    | ok reports =>
        simp only [reduceCtorEq, exists_const, false_or, Except.ok.injEq, exists_eq_left',
          listingFails_iff_of_taken hcreate hwrite]
        refine and_congr_right fun _ => ?_
        constructor
        · rintro ⟨diagnostic, hmem, htext⟩
          obtain ⟨hfile, hrejects⟩ :=
            (filePath_iff_of_lintAll hlinted diagnostic.filePath).mp ⟨diagnostic, hmem, rfl⟩
          exact ⟨_, hfile, htext, hrejects⟩
        · rintro ⟨path, hfile, htext, hrejects⟩
          obtain ⟨diagnostic, hmem, hpath⟩ :=
            (filePath_iff_of_lintAll hlinted path).mpr ⟨hfile, hrejects⟩
          exact ⟨diagnostic, hmem, hpath ▸ htext⟩

/-! ## All together -/

/-- What the code of a run means. It is 2 if the schema cannot be loaded, a file cannot be read or
a listing fails, and that of a run that is cut off if printing fails; in all other runs it tells
whether the schema rejects a file with a text that is worth checking. No answer is ever thrown
away as outdated. All other arguments, the debugging and the colours make no difference but the
one they make to listings and printing, and outputs that take everything leave a single one: a
listing needs texts for the names of rejected files. -/
theorem run_code_spec (arguments : Arguments) (config : Config) (coloured : Bool) (files : Files) :
    let schema? := arguments.schema?.or config.schema?
    let options : ValidationOptions := ⟨true, !arguments.structuralOnly⟩
    let fails := (∃ path error, schema? = some path ∧ files.schema path = .error error) ∨
      ∃ path ∈ arguments.files, ∃ error, files.readText path = .error error
    let code := (run arguments config coloured files.heard).code
    (code = 2 ↔ fails ∨ ∃ reports, lintAll arguments config files = .ok reports ∧
      arguments.ListingFails files reports) ∧
    (code = 101 ↔ ∃ reports, lintAll arguments config files = .ok reports ∧
      arguments.PrintingFails coloured files reports) ∧
    (code ≠ 2 → code ≠ 101 →
      (code = 1 ↔ ∃ path ∈ arguments.files, Rejects files schema? options path) ∧
      (code = 0 ↔ ¬ ∃ path ∈ arguments.files, Rejects files schema? options path)) ∧
    (∀ source path text, files.readText path = .ok text →
      ((Buffer.new path text.toList).lint (.ofSource source files) options).outcome ≠ .noUpdate) ∧
    (∀ given elsewhere tinted, given.files = arguments.files →
      given.schema?.or elsewhere.schema? = schema? →
      (∀ reports, lintAll arguments config files = .ok reports →
        (given.ListingFails files reports ↔ arguments.ListingFails files reports) ∧
        (given.PrintingFails tinted files reports ↔
          arguments.PrintingFails coloured files reports)) →
      (run given elsewhere tinted files.heard).code = code) ∧
    ((∀ name, files.create name = .ok ()) → (∀ target text, files.write target text = .ok ()) →
      code ≠ 101 ∧ (code = 2 ↔ fails ∨ arguments.format = .json ∧
        ∃ path ∈ arguments.files, path.isText = false ∧ Rejects files schema? options path)) ∧
    (((run arguments config coloured files).code = 101 ∧
        ∃ text fault, files.say text = .error fault) ∨
      (run arguments config coloured files).code = code) ∧
    ∀ words environment, readArguments words = .ok arguments →
      Config.ofEnvironment environment = config → environment.isColoured = coloured →
      execute words environment files = run arguments config coloured files := by
  intro schema? options fails code
  have herror : (∃ error, lintAll arguments config files = .error error) ↔ fails :=
    exists_lintAll_eq_error_iff arguments config files
  refine ⟨?_, run_code_eq_cutOff_iff arguments config coloured files,
    fun htwo hcut => run_code_of_shown htwo hcut, ?_,
    fun given elsewhere tinted hfiles hschema hfails => run_code_congr hfiles hschema hfails, ?_,
    run_code_eq_cutOff_or arguments config coloured files, ?_⟩
  · rw [← herror]
    exact run_code_eq_two_iff arguments config coloured files
  · intro source path text hread hstale
    obtain ⟨diagnostics, houtcome, _⟩ := exists_lint_ofSource hread source options
    cases houtcome.symm.trans hstale
  · intro hcreate hwrite
    rw [← herror]
    exact run_code_of_taken hcreate hwrite arguments config coloured
  · rintro words environment hwords rfl rfl
    exact execute_of_ok hwords environment files

/-- One file is cut off and the other is no API description, in two ways to ask for them. -/
theorem run_code_of_cut_off :
    let content : FileName → String := fun name =>
      if name = "a.json" then "\x7b\"swagger\": \"2.0\"" else "title: 1"
    let files : Files :=
      ⟨fun name => .ok (content name).toUTF8, fun _ => .ok (), fun _ _ => .ok (), fun _ => .ok ()⟩
    (run ⟨["a.json", "b.yaml"], none, .pretty, none, false, true⟩ ⟨none, false⟩ false
        files).code = 1 ∧
      (execute ["a.json", "--structural-only", "-fjson", "-o", "r.json", "b.yaml"]
        [("SWAGGER_LINT_DEBUG", "1")] files).code = 1 := by
  intro content files
  have hread : ∀ name, files.readText name = .ok (content name) :=
    fun _ => Files.readText_of_read rfl
  let quiet : Arguments := ⟨["a.json", "b.yaml"], none, .pretty, none, false, true⟩
  let listed : Arguments := ⟨["a.json", "b.yaml"], none, .json, some "r.json", true, false⟩
  have hwords : readArguments ["a.json", "--structural-only", "-fjson", "-o", "r.json", "b.yaml"] =
      .ok listed := by decide +kernel
  obtain ⟨error, herror⟩ : ∃ error,
      readDocument "a.json".toList (content "a.json").toList = .error error := ⟨_, by cbv⟩
  obtain ⟨_, _, hshown, _, hsame, htaken, _⟩ := run_code_spec quiet ⟨none, false⟩ false files
  obtain ⟨hcut, htwo⟩ := htaken (fun _ => rfl) fun _ _ => rfl
  have hne : (run quiet ⟨none, false⟩ false files.heard).code ≠ 2 := by
    rw [Ne, htwo]
    rintro ((⟨_, _, hschema, _⟩ | ⟨path, _, _, hpath⟩) | ⟨hformat, _⟩)
    · cases hschema
    · cases (hread path).symm.trans hpath
    · cases hformat
  have hcode : (run quiet ⟨none, false⟩ false files.heard).code = 1 :=
    (hshown hne hcut).1.mpr ⟨"a.json", by decide, .swagger, _, _, rfl, hread _, by decide +kernel,
      Schema.verdictOn_of_error herror _ _⟩
  have hother := hsame listed ⟨none, true⟩ false rfl rfl ?_
  · obtain ⟨_, _, _, _, _, _, _, hexecute⟩ := run_code_spec listed ⟨none, true⟩ false files
    refine ⟨hcode, ?_⟩
    rw [hexecute _ [("SWAGGER_LINT_DEBUG", "1")] hwords (by decide +kernel) (by decide +kernel)]
    exact hother.trans hcode
  · intro reports hreports
    have hlisting : ¬ listed.ListingFails files reports := by
      rw [listingFails_iff_of_taken (fun _ => rfl) fun _ _ => rfl]
      rintro ⟨_, diagnostic, hmem, htext⟩
      have hfile := ((filePath_iff_of_lintAll hreports _).mp ⟨diagnostic, hmem, rfl⟩).1
      have htexts : ∀ path ∈ quiet.files, path.isText = true := by decide
      cases htext.symm.trans (htexts _ hfile)
    have hformat : OutputFormat.pretty ≠ .json := by decide
    exact ⟨iff_of_false hlisting (not_listingFails hformat),
      iff_of_false (not_printingFails rfl) (not_printingFails_of_taken fun _ _ => rfl)⟩

/-- A rejected file whose name is no text ends a run with 1, but with 2 if it is to be listed,
though every output takes everything. -/
theorem run_code_of_name_without_text :
    let name : FileName := .bytes ⟨#[0xFF, 0x2E, 0x6A, 0x73, 0x6F, 0x6E]⟩ (by decide)
    let files : Files := ⟨fun _ => .ok "\x7b\"swagger\": \"2.0\"".toUTF8, fun _ => .ok (),
      fun _ _ => .ok (), fun _ => .ok ()⟩
    let code := fun format =>
      (run ⟨[name], none, format, none, false, false⟩ ⟨none, false⟩ false files).code
    code .pretty = 1 ∧ code .table = 1 ∧ code .json = 2 := by
  intro name files code
  have hread : ∀ path, files.readText path = .ok "\x7b\"swagger\": \"2.0\"" :=
    fun _ => Files.readText_of_read rfl
  obtain ⟨error, herror⟩ : ∃ error, readDocument name.shown.toList
      "\x7b\"swagger\": \"2.0\"".toList = .error error := ⟨_, by cbv⟩
  have hrejects : Rejects files none (validationOptions false) name :=
    ⟨.swagger, _, _, rfl, hread _, by decide +kernel, Schema.verdictOn_of_error herror _ _⟩
  have hcreate : ∀ path, files.create path = .ok () := fun _ => rfl
  have hwrite : ∀ target text, files.write target text = .ok () := fun _ _ => rfl
  have hlinted : ∀ arguments config, arguments.schema?.or config.schema? = none →
      ¬ ∃ error, lintAll arguments config files = .error error := by
    intro arguments config hnone
    rw [exists_lintAll_eq_error_iff, hnone]
    rintro (⟨_, _, hschema, _⟩ | ⟨path, _, _, hpath⟩)
    · cases hschema
    · cases (hread path).symm.trans hpath
  have hshown : ∀ format, format ≠ .json → code format = 1 := by
    intro format hformat
    obtain ⟨hcut, htwo⟩ := run_code_of_taken hcreate hwrite
      ⟨[name], none, format, none, false, false⟩ ⟨none, false⟩ false
    refine (run_code_of_shown (fun hcode => ?_) hcut).1.mpr
      ⟨name, List.mem_singleton_self _, hrejects⟩
    rcases htwo.mp hcode with hfails | ⟨hjson, _⟩
    · exact hlinted _ _ rfl hfails
    · exact hformat hjson
  refine ⟨hshown _ (by decide), hshown _ (by decide), ?_⟩
  exact (run_code_of_taken hcreate hwrite _ _ _).2.mpr
    (Or.inr ⟨rfl, name, List.mem_singleton_self _, rfl, hrejects⟩)

end

end CommandLine

end ApiLint
