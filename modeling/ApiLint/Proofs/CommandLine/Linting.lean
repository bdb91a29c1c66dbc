import ApiLint.Proofs.CommandLine.Code

/-!
# Several files in one run

Files are linted one after another, and what one of them gives is a matter of its own text
(`lintFile_congr`). So there is a report for each file if all can be read (`lintFiles_eq_ok_iff`),
and lists of files can be linted apart. One file that cannot be read takes all reports away,
those of the files before it as well, and the first such file is the one that is told about
(`lintFiles_of_first_unreadable`).

A run looks at what it could write only after that. With a file that cannot be read it comes to
the same whatever creating and writing files would give, so nothing has been created or shown
(`run_of_lintAll_error`).
-/

namespace ApiLint

namespace CommandLine

section

variable {files : Files} {source : Schema.Source} {options : ValidationOptions}

theorem fileName_of_lintFile {path : FileName} {report : Report}
    (h : lintFile files source options path = .ok report) : report.fileName = path.shown := by
  cases hread : files.readText path with
  | error error =>
      rw [lintFile_of_unreadable hread] at h
      cases h
  | ok text =>
      obtain ⟨other, hother, hname, _⟩ := exists_lintFile_eq_ok hread source options
      cases h.symm.trans hother
      exact hname

theorem lintFiles_cons (path : FileName) (paths : List FileName) :
    lintFiles files source options (path :: paths) = (do
      let report ← lintFile files source options path
      let reports ← lintFiles files source options paths
      return report :: reports) :=
  List.mapM_cons

theorem lintFiles_append (xs ys : List FileName) :
    lintFiles files source options (xs ++ ys) = (do
      let reports ← lintFiles files source options xs
      let more ← lintFiles files source options ys
      return reports ++ more) :=
  List.mapM_append

/-- Linting succeeds with a report for each file, in order. -/
theorem lintFiles_eq_ok_iff {paths : List FileName} {reports : List Report} :
    lintFiles files source options paths = .ok reports ↔
      List.Forall₂ (fun path report => lintFile files source options path = .ok report)
        paths reports := by
  induction paths generalizing reports with
  | nil =>
      rw [List.forall₂_nil_left_iff]
      constructor
      · intro h
        injection h with h
        exact h.symm
      · rintro rfl
        rfl
  | cons path paths ih =>
      rw [lintFiles_cons, List.forall₂_cons_left_iff]
      constructor
      · intro h
        cases hreport : lintFile files source options path with
        | error error =>
            rw [hreport] at h
            cases h
        | ok report =>
            cases hmore : lintFiles files source options paths with
            | error error =>
                rw [hreport, hmore] at h
                cases h
            | ok more =>
                rw [hreport, hmore] at h
                injection h with h
                exact ⟨report, more, rfl, ih.mp hmore, h.symm⟩
      · rintro ⟨report, more, hreport, hmore, rfl⟩
        rw [hreport, ih.mpr hmore]
        rfl

theorem exists_lintFiles_eq_ok {paths : List FileName}
    (h : ∀ path ∈ paths, ∃ text, files.readText path = .ok text) (source : Schema.Source)
    (options : ValidationOptions) :
    ∃ reports, lintFiles files source options paths = .ok reports := by
  induction paths with
  | nil => exact ⟨[], rfl⟩
  | cons path paths ih =>
      obtain ⟨text, htext⟩ := h path List.mem_cons_self
      obtain ⟨report, hreport, _⟩ := exists_lintFile_eq_ok htext source options
      obtain ⟨reports, hreports⟩ := ih fun other hmem => h other (List.mem_cons_of_mem _ hmem)
      refine ⟨report :: reports, ?_⟩
      rw [lintFiles_cons, hreport, hreports]
      rfl

/-- The first file that cannot be read is the one that linting ends with. -/
theorem lintFiles_of_first_unreadable {before after : List FileName} {path : FileName}
    {error : FileError} (hbefore : ∀ earlier ∈ before, ∃ text, files.readText earlier = .ok text)
    (h : files.readText path = .error error) (source : Schema.Source)
    (options : ValidationOptions) :
    lintFiles files source options (before ++ path :: after) = .error (.unreadable path error) := by
  obtain ⟨reports, hreports⟩ := exists_lintFiles_eq_ok hbefore source options
  rw [lintFiles_append, lintFiles_cons, hreports, lintFile_of_unreadable h]
  rfl

/-- Of files that cannot be read there is a first one. -/
theorem exists_first_unreadable {paths : List FileName}
    (h : ∃ path ∈ paths, ∃ error, files.readText path = .error error) :
    ∃ before path after error, paths = before ++ path :: after ∧
      (∀ earlier ∈ before, ∃ text, files.readText earlier = .ok text) ∧
      files.readText path = .error error := by
  induction paths with
  | nil =>
      obtain ⟨path, hmem, _⟩ := h
      cases hmem
  | cons first rest ih =>
      cases hfirst : files.readText first with
      | error error =>
          exact ⟨[], first, rest, error, rfl, fun _ hmem => absurd hmem List.not_mem_nil, hfirst⟩
      | ok text =>
          obtain ⟨path, hmem, error, herror⟩ := h
          have hrest : path ∈ rest := by
            rcases List.mem_cons.mp hmem with rfl | hrest
            · cases hfirst.symm.trans herror
            · exact hrest
          obtain ⟨before, path, after, error, rfl, hbefore, herror⟩ :=
            ih ⟨path, hrest, error, herror⟩
          refine ⟨first :: before, path, after, error, rfl, ?_, herror⟩
          intro earlier hearlier
          rcases List.mem_cons.mp hearlier with rfl | hearlier
          · exact ⟨text, hfirst⟩
          · exact hbefore earlier hearlier

theorem lintFiles_eq_ok_iff_readable {paths : List FileName} :
    (∃ reports, lintFiles files source options paths = .ok reports) ↔
      ∀ path ∈ paths, ∃ text, files.readText path = .ok text := by
  refine ⟨?_, fun h => exists_lintFiles_eq_ok h source options⟩
  rintro ⟨reports, hreports⟩ path hmem
  cases hread : files.readText path with
  | ok text => exact ⟨text, rfl⟩
  | error error =>
      obtain ⟨found, hfound⟩ := lintFiles_of_unreadable hmem hread source options
      cases hreports.symm.trans hfound

/-! ## Runs with a file that cannot be read -/

variable {arguments : Arguments} {config : Config}

theorem lintAll_of_unreadable
    (h : ∃ path ∈ arguments.files, ∃ error, files.readText path = .error error) (config : Config) :
    ∃ error, lintAll arguments config files = .error error := by
  rcases lintAll_cases arguments config files with ⟨_, herror⟩ | ⟨hreads, _⟩
  · exact herror
  · exact absurd (Or.inr h) hreads

/-- What is told about single diagnostics does not depend on what could be created or written. -/
theorem debugText_of_read (arguments : Arguments) (config : Config) (files : Files)
    (create : String → Except FileError Unit)
    (write : Target → String → Except WriteFault Unit) :
    debugText arguments config { files with create, write } = debugText arguments config files := by
  have hbefore : ∀ (source : Schema.Source) (options : ValidationOptions) (paths : List FileName),
      lintedBefore { files with create, write } source options paths =
        lintedBefore files source options paths := by
    intro source options paths
    induction paths with
    | nil => rfl
    | cons path rest ih =>
        rw [lintedBefore, lintedBefore, ih]
        rfl
  rw [debugText, debugText]
  simp only [hbefore]
  rfl

/-- A run without reports says why, if the error output takes it, and does nothing else. -/
theorem run_of_lintAll_error {error : RunError}
    (h : lintAll arguments config files = .error error) (coloured : Bool) :
    let completion := run arguments config coloured files
    (completion.code = 2 ∨
      completion.code = cutOffCode ∧ ∃ text fault, files.say text = .error fault) ∧
    completion.stdout = "" ∧ completion.written? = none ∧
    ∀ create write, run arguments config coloured { files with create, write } = completion := by
  intro completion
  have hrun : completion = _ := run.eq_1 arguments config coloured files
  rw [h] at hrun
  refine ⟨?_, ?_, ?_, ?_⟩
  · rcases run_code_eq_cutOff_or arguments config coloured files with hcut | hcode
    · exact Or.inr hcut
    · exact Or.inl (hcode.trans (run_code_of_error h coloured))
  · rw [hrun]
    dsimp only
    split
    · rfl
    · rfl
  · rw [hrun]
    dsimp only
    split
    · rfl
    · rfl
  · intro create write
    rw [hrun, run, debugText_of_read, show lintAll arguments config { files with create, write } = _
      from h]
    rfl

/-- Lists of files are linted apart, with a report for each file in order that depends on its own
text alone, if all of them can be read. Otherwise the first that cannot be read is told about, and
a run with such a file prints nothing but errors, writes nothing, and never gets to know whether
a file could be created. -/
theorem lintFiles_all_or_nothing (files : Files) (source : Schema.Source)
    (options : ValidationOptions) :
    let linted := lintFiles files source options
    (∀ xs ys reports more, linted xs = .ok reports → linted ys = .ok more →
      linted (xs ++ ys) = .ok (reports ++ more)) ∧
    (∀ paths, (∃ reports, linted paths = .ok reports) ↔
      ∀ path ∈ paths, ∃ text, files.readText path = .ok text) ∧
    (∀ paths reports, linted paths = .ok reports →
      List.Forall₂ (fun path report => report.fileName = path.shown ∧
        ∀ others : Files, others.readText path = files.readText path →
          lintFile others source options path = .ok report) paths reports) ∧
    (∀ paths, (∃ path ∈ paths, ∃ error, files.readText path = .error error) →
      ∃ before path after error, paths = before ++ path :: after ∧
        (∀ earlier ∈ before, ∃ text, files.readText earlier = .ok text) ∧
        files.readText path = .error error ∧ linted paths = .error (.unreadable path error)) ∧
    ∀ arguments config coloured,
      (∃ path ∈ arguments.files, ∃ error, files.readText path = .error error) →
      let completion := run arguments config coloured files
      (completion.code = 2 ∨
        completion.code = 101 ∧ ∃ text fault, files.say text = .error fault) ∧
      completion.stdout = "" ∧ completion.written? = none ∧
      (∀ create write, run arguments config coloured { files with create, write } = completion) ∧
      ∀ words environment, readArguments words = .ok arguments →
        Config.ofEnvironment environment = config → environment.isColoured = coloured →
        execute words environment files = completion := by
  intro linted
  refine ⟨?_, fun paths => lintFiles_eq_ok_iff_readable, ?_, ?_, ?_⟩
  · intro xs ys reports more hxs hys
    show lintFiles files source options (xs ++ ys) = _
    rw [lintFiles_append, show lintFiles files source options xs = _ from hxs,
      show lintFiles files source options ys = _ from hys]
    rfl
  · intro paths reports hreports
    refine (lintFiles_eq_ok_iff.mp hreports).imp fun path report hreport => ?_
    exact ⟨fileName_of_lintFile hreport, fun others hsame =>
      (lintFile_congr hsame rfl source).trans hreport⟩
  · intro paths hunreadable
    obtain ⟨before, path, after, error, rfl, hbefore, herror⟩ := exists_first_unreadable hunreadable
    exact ⟨before, path, after, error, rfl, hbefore, herror,
      lintFiles_of_first_unreadable hbefore herror source options⟩
  · intro arguments config coloured hunreadable
    obtain ⟨error, herror⟩ := lintAll_of_unreadable hunreadable config
    obtain ⟨hcode, hstdout, hwritten, hsame⟩ := run_of_lintAll_error herror coloured
    refine ⟨hcode, hstdout, hwritten, hsame, ?_⟩
    rintro words environment hwords rfl rfl
    exact execute_of_ok hwords environment files

/-- The first file is cut off and has a diagnostic, the second is missing. -/
theorem lintFiles_of_cut_off_and_missing :
    let cut := "\x7b\"swagger\": \"2.0\""
    let files : Files :=
      ⟨fun name => if name = "b.yaml" then .error .missing else .ok cut.toUTF8, fun _ => .ok (),
        fun _ _ => .ok (), fun _ => .ok ()⟩
    let linted := lintFiles files .swagger (validationOptions false)
    let completion := execute ["a.json", "b.yaml", "-fjson", "-o", "r.json"] [] files
    (∃ report, linted ["a.json"] = .ok [report] ∧ report.isValid = false) ∧
      linted ["a.json", "b.yaml"] = .error (.unreadable "b.yaml" .missing) ∧
      completion.stdout = "" ∧ completion.written? = none := by
  intro cut files linted completion
  obtain ⟨_, hsome, heach, hfirst, hrun⟩ :=
    lintFiles_all_or_nothing files .swagger (validationOptions false)
  have hcut : files.readText "a.json" = .ok cut := Files.readText_of_read rfl
  have hmissing : files.readText "b.yaml" = .error .missing := rfl
  have hwords : readArguments ["a.json", "b.yaml", "-fjson", "-o", "r.json"] =
      .ok ⟨["a.json", "b.yaml"], none, .json, some "r.json", false, false⟩ := by decide +kernel
  refine ⟨?_, ?_, ?_⟩
  · obtain ⟨reports, hreports⟩ := (hsome ["a.json"]).mpr fun path hmem =>
      ⟨_, List.mem_singleton.mp hmem ▸ hcut⟩
    obtain ⟨report, more, ⟨_, hown⟩, hmore, rfl⟩ :=
      List.forall₂_cons_left_iff.mp (heach _ _ hreports)
    rw [List.forall₂_nil_left_iff.mp hmore] at hreports
    have hsource : loadSchema files none = .ok .swagger := rfl
    obtain ⟨other, hother, _, hvalid⟩ := lintFile_of_readable hsource hcut (validationOptions false)
    cases hother.symm.trans (hown files rfl)
    obtain ⟨error, herror⟩ : ∃ error, readDocument "a.json".toList cut.toList = .error error :=
      ⟨_, by cbv⟩
    have hrejects : Rejects files none (validationOptions false) "a.json" :=
      ⟨.swagger, _, _, rfl, hcut, by decide +kernel, Schema.verdictOn_of_error herror _ _⟩
    exact ⟨report, hreports, Bool.eq_false_iff.mpr fun h => hvalid.mp h hrejects⟩
  · obtain ⟨before, path, after, error, hpaths, _, herror, hlinted⟩ :=
      hfirst ["a.json", "b.yaml"] ⟨"b.yaml", by decide, _, hmissing⟩
    rcases before with _ | ⟨first, before⟩
    · injection hpaths with hpath
      rw [← hpath] at herror
      cases hcut.symm.trans herror
    · injection hpaths with _ hpaths
      rcases before with _ | ⟨second, before⟩
      · injection hpaths with hpath
        rw [← hpath] at herror hlinted
        cases hmissing.symm.trans herror
        exact hlinted
      · injection hpaths with _ hpaths
        simp at hpaths
  · obtain ⟨_, hstdout, hwritten, _, hexecute⟩ :=
      hrun ⟨["a.json", "b.yaml"], none, .json, some "r.json", false, false⟩ ⟨none, false⟩ false
        ⟨"b.yaml", by decide, _, hmissing⟩
    have hcompletion : completion = _ := hexecute _ [] hwords rfl rfl
    exact ⟨hcompletion ▸ hstdout, hcompletion ▸ hwritten⟩

end

end CommandLine

end ApiLint
