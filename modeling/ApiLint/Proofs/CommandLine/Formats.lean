import Mathlib
import ApiLint.Proofs.CommandLine.Code
import ApiLint.Proofs.Report.Listing
import ApiLint.Proofs.Report.Table

/-!
# The same diagnostics in every format

JSON and tables go through all diagnostics at once, the pretty output report by report, and the
code of a run asks every report for itself. All four see the diagnostics of all reports in their
order, `shown` below: none is dropped with a report that is empty, and none is counted twice.
Only JSON asks for names that are texts, and breaks off where it is given another
(`exists_render_json_eq_front`).

The pretty output is made of blocks (`blocksOf`), an excerpt for each diagnostic or a check mark in
place of them. A quiet run prints the blocks that have a diagnostic and leaves out the others,
which is all that being quiet does to any format.
-/

namespace ApiLint

namespace CommandLine

/-- What the pretty output consists of. -/
inductive Block where
  | excerpt (report : Report) (diagnostic : Diagnostic)
  | checkMark (fileName : String)

namespace Block

def text (coloured : Bool) : Block → String
  | .excerpt report diagnostic => Report.snippet report.text report.fileName diagnostic
  | .checkMark fileName => tint coloured green "✓" ++ " " ++ fileName ++ "\n"

def diagnostic? : Block → Option Diagnostic
  | .excerpt _ diagnostic => some diagnostic
  | .checkMark _ => none

end Block

/-- What a run leaves that has shown all of a rendering: on the output, and in a file. -/
def Rendering.outputs : Rendering → String × Option (String × String)
  | .printed text => (text, none)
  | .listed .output text _ => (text, none)
  | .listed (.file name) text _ => ("", some (name, text))

/-- A report without diagnostics has a block all the same. -/
def blocksOf (report : Report) : List Block :=
  if report.diagnostics.isEmpty then [.checkMark report.fileName]
  else report.diagnostics.map (.excerpt report)

theorem filterMap_blocksOf (report : Report) :
    (blocksOf report).filterMap Block.diagnostic? = report.diagnostics := by
  rw [blocksOf]
  split
  · next hempty => exact (List.isEmpty_iff.mp hempty).symm
  · rw [List.filterMap_map]
    exact List.filterMap_some

/-- An excerpt opens with the message of its diagnostic. -/
theorem exists_text_excerpt (coloured : Bool) (report : Report) (diagnostic : Diagnostic) :
    ∃ rest, (Block.text coloured (.excerpt report diagnostic)).toList =
      "\x1b[31mError:\x1b[0m ".toList ++ diagnostic.message.toList ++ '\n' :: rest := by
  rw [Block.text, Report.snippet, String.toList_ofList, Report.snippetRows, List.append_assoc,
    List.cons_append, List.flatMap_cons]
  exact ⟨_, List.append_assoc _ _ _⟩

/-- A block that is printed, quiet or not: only one without a diagnostic is ever left out. -/
def Block.isShown (quiet : Bool) (block : Block) : Bool := !quiet || block.diagnostic?.isSome

theorem prettyText_eq (coloured quiet : Bool) (report : Report) :
    prettyText coloured quiet report =
      String.join (((blocksOf report).filter (Block.isShown quiet)).map (Block.text coloured)) := by
  rw [prettyText, Report.isValid, blocksOf]
  split
  · cases quiet with
    | true => rfl
    | false =>
        show _ = String.join [_]
        rw [String.join_cons, String.join_nil, String.append_empty]
        rfl
  · have hall : ∀ block ∈ report.diagnostics.map (Block.excerpt report),
        Block.isShown quiet block = true := by
      intro block hblock
      obtain ⟨diagnostic, _, rfl⟩ := List.mem_map.mp hblock
      exact Bool.or_true _
    rw [List.filter_eq_self.mpr hall, List.map_map]
    rfl

variable (reports : List Report)

theorem join_prettyText (coloured quiet : Bool) :
    String.join (reports.map (prettyText coloured quiet)) = String.join
      (((reports.flatMap blocksOf).filter (Block.isShown quiet)).map (Block.text coloured)) := by
  induction reports with
  | nil => rfl
  | cons report reports ih =>
      rw [List.map_cons, String.join_cons, ih, prettyText_eq, List.flatMap_cons, List.filter_append,
        List.map_append, String.join_append]

theorem filterMap_blocks :
    (reports.flatMap blocksOf).filterMap Block.diagnostic? = reports.flatMap (·.diagnostics) := by
  rw [List.filterMap_flatMap]
  exact List.flatMap_congr fun report _ => filterMap_blocksOf report

theorem length_shown :
    (reports.flatMap (·.diagnostics)).length = (reports.map Report.errorCount).sum :=
  List.length_flatMap

theorem render_table (output? : Option String) (coloured quiet : Bool) :
    render reports .table output? coloured quiet = .printed
      (if reports.flatMap (·.diagnostics) = [] then "" else Report.table reports ++ "\n") := by
  rw [render]
  simp only [all_isValid_iff]

theorem taken_of_no_fault {write : String → Except WriteFault Unit} {text : String}
    (h : (attempt write text).2 = none) : (attempt write text).1 = text := by
  by_cases hempty : text = ""
  · rw [hempty]
    rfl
  · cases hwrite : write text with
    | ok _ => rw [attempt_of_ok hwrite]
    | error fault =>
        rw [attempt_of_error hempty hwrite] at h
        cases h

theorem no_fault_of_listingEnding {target : Target} {isWhole : Bool} {fault? : Option WriteFault}
    (h : listingEnding target isWhole fault? = .complete) : fault? = none := by
  cases fault? with
  | none => rfl
  | some fault =>
      have hfailed : ∃ error, listingEnding target isWhole (some fault) = .failed error :=
        exists_listingEnding_eq_failed target isWhole (Or.inr rfl)
      obtain ⟨error, herror⟩ := hfailed
      cases h.symm.trans herror

/-- Showing that comes to its end has shown everything. -/
theorem outputs_of_complete {rendering : Rendering} {files : Files}
    (h : (rendering.deliver files).ending = .complete) :
    ((rendering.deliver files).stdout, (rendering.deliver files).written?) = rendering.outputs := by
  rcases rendering with text | ⟨name | _, text, isWhole⟩
  · rw [Rendering.deliver] at h ⊢
    cases hattempt : attempt (files.write .output) text with
    | mk taken fault? =>
        rw [hattempt] at h
        cases fault? with
        | none =>
            have htaken := taken_of_no_fault (congrArg Prod.snd hattempt)
            rw [hattempt] at htaken
            exact congrArg (·, none) htaken
        | some fault => cases h
  · cases hcreate : files.create name with
    | error error =>
        rw [ending_listed_of_create_error hcreate] at h
        cases h
    | ok _ =>
        rw [Rendering.deliver, hcreate] at h ⊢
        have hnone : (attempt (files.write (.file name)) text).2 = none :=
          no_fault_of_listingEnding h
        show ("", some (name, (attempt (files.write (.file name)) text).1)) = _
        rw [taken_of_no_fault hnone]
        rfl
  · have hnone : (attempt (files.write .output) text).2 = none := no_fault_of_listingEnding h
    show ((attempt (files.write .output) text).1, none) = _
    rw [taken_of_no_fault hnone]
    rfl

/-- A run that has shown its reports has done nothing else. -/
theorem run_of_complete {arguments : Arguments} {config : Config} {files : Files}
    {reports : List Report} {coloured : Bool}
    (h : lintAll arguments config files = .ok reports)
    (hcomplete : ((render reports arguments.format arguments.output? coloured
      arguments.quiet).deliver files).ending = .complete) :
    let completion := run arguments config coloured files.heard
    completion.code = (if reports.all (·.isValid) then 0 else 1) ∧
      (completion.stdout, completion.written?) =
        (render reports arguments.format arguments.output? coloured arguments.quiet).outputs := by
  obtain ⟨hcode, hstdout, hwritten⟩ := run_of_ok h coloured
  refine ⟨hcode.trans (by rw [hcomplete]), ?_⟩
  rw [← outputs_of_complete hcomplete, hstdout, hwritten]

/-- Every format shows the diagnostics of all reports in their order, each once: JSON as the items
of a list, if the names of their files are texts, a table as its rows, if there are any, and the
pretty output as blocks, with a check mark for a report without diagnostics unless quiet. There
are as many as the reports count together, and a run with these reports that shows all of that
ends with 1 unless there are none. -/
theorem render_spec (reports : List Report) (output? : Option String) (coloured : Bool) :
    let shown := reports.flatMap (·.diagnostics)
    let count := (reports.map Report.errorCount).sum
    let blocks := reports.flatMap blocksOf
    let excerpts := blocks.filter (·.diagnostic?.isSome)
    let printed := fun format quiet => render reports format output? coloured quiet
    let headings := ["File", "Location", "Severity", "Message"]
    let cells := fun diagnostic : Diagnostic =>
      let start := diagnostic.range.start
      let stop := diagnostic.range.stop
      [diagnostic.filePath.shown,
        s!"{start.line + 1}:{start.column + 1}-{stop.line + 1}:{stop.column + 1}", "Error",
        diagnostic.message]
    shown.length = count ∧
    (∀ quiet, (∀ diagnostic ∈ shown, diagnostic.filePath.isText = true) →
      let text := Json.bracketed 0 "[" "]" (shown.map (Diagnostic.listing 1)) ++ "\n"
      printed .json quiet = .listed (targetOf output?) text true ∧
      (shown = [] → text = "[]\n") ∧
      ((∀ diagnostic ∈ shown, diagnostic.Fits) →
        Json.read text = .ok (.array (shown.map Diagnostic.toJson)))) ∧
    (∀ quiet, (∃ diagnostic ∈ shown, diagnostic.filePath.isText = false) →
      ∃ front, printed .json quiet = .listed (targetOf output?) front false) ∧
    (∀ quiet, ∃ text, printed .table quiet = .printed text ∧ (text = "" ↔ shown = []) ∧
      (shown ≠ [] → ∃ widths heading rows,
        Text.lines text.toList = [Report.rule '╭' '┬' '╮' widths] ++ heading
          ++ [Report.rule '├' '┼' '┤' widths] ++ rows.flatten
          ++ [Report.rule '╰' '┴' '╯' widths, []] ∧
        Report.ShowsRow widths headings heading ∧
        List.Forall₂ (fun diagnostic row => Report.ShowsRow widths (cells diagnostic) row)
          shown rows ∧
        rows.length = count)) ∧
    (printed .pretty false = .printed (String.join (blocks.map (Block.text coloured))) ∧
      printed .pretty true = .printed (String.join (excerpts.map (Block.text coloured))) ∧
      blocks.filterMap Block.diagnostic? = shown ∧ excerpts.length = count ∧
      (∀ report diagnostic, ∃ rest, (Block.text coloured (.excerpt report diagnostic)).toList =
        "\x1b[31mError:\x1b[0m ".toList ++ diagnostic.message.toList ++ '\n' :: rest) ∧
      ∀ format, format ≠ .pretty → printed format true = printed format false) ∧
    ∀ arguments config files, lintAll arguments config files = .ok reports →
      let rendering := render reports arguments.format arguments.output? coloured arguments.quiet
      let completion := run arguments config coloured files.heard
      (rendering.deliver files).ending = .complete →
      completion.code = (if count = 0 then 0 else 1) ∧
        (completion.stdout, completion.written?) = rendering.outputs := by
  intro shown count blocks excerpts printed headings cells
  have hcount : shown.length = count := length_shown reports
  refine ⟨hcount, ?_, ?_, ?_, ?_, ?_⟩
  · intro quiet htexts text
    refine ⟨render_json htexts output? coloured quiet, ?_, ?_⟩
    · intro hnone
      show Diagnostic.listingOf shown ++ "\n" = _
      rw [hnone]
      rfl
    · exact fun hfits => Diagnostic.read_listingOf hfits
  · rintro quiet ⟨diagnostic, hmem, htext⟩
    exact exists_render_json_eq_front hmem htext output? coloured quiet
  · intro quiet
    refine ⟨_, render_table reports output? coloured quiet, ?_, ?_⟩
    · constructor
      · intro hempty
        by_contra hsome
        rw [if_neg hsome] at hempty
        simpa using congrArg String.length hempty
      · exact fun hnone => if_pos hnone
    · intro hsome
      obtain ⟨widths, heading, rows, hlines, hheading, hrows⟩ := Report.exists_lines_table hsome
      simp only [Report.cellsOf_eq] at hrows
      rw [if_neg hsome]
      exact ⟨widths, heading, rows, hlines, hheading, hrows, hrows.length_eq ▸ hcount⟩
  · have hdiagnostics : blocks.filterMap Block.diagnostic? = shown := filterMap_blocks reports
    have hall : blocks.filter (Block.isShown false) = blocks :=
      List.filter_eq_self.mpr fun _ _ => rfl
    refine ⟨?_, ?_, hdiagnostics, ?_, exists_text_excerpt coloured, ?_⟩
    · show Rendering.printed _ = _
      rw [join_prettyText, hall]
    · exact congrArg Rendering.printed (join_prettyText reports coloured true)
    · rw [← hcount, ← hdiagnostics, List.length_filterMap_eq_countP, List.countP_eq_length_filter]
    · intro format hformat
      cases format with
      | pretty => exact absurd rfl hformat
      | table => rfl
      | json => rfl
  · intro arguments config files hlinted rendering completion hcomplete
    obtain ⟨hcode, houtputs⟩ := run_of_complete hlinted hcomplete
    refine ⟨hcode.trans ?_, houtputs⟩
    have hnone : reports.all (·.isValid) = true ↔ count = 0 := by
      rw [all_isValid_iff, ← hcount, List.length_eq_zero_iff]
    simp only [hnone]

/-- An empty report between two others, and a run over a file that is cut off. -/
theorem render_of_empty_between_two :
    let first : Diagnostic := ⟨"no \"info\"\nat all", "a.yaml", .onLine 0 0 1⟩
    let second : Diagnostic := ⟨"ä│b", "c.yaml", .onLine 2 1 3⟩
    let reports : List Report :=
      [⟨[first], "a: 1".toList, "a.yaml"⟩, ⟨[], [], "b.yaml"⟩, ⟨[second], [], "c.yaml"⟩]
    let cut := "\x7b\"swagger\": \"2.0\""
    let files : Files :=
      ⟨fun _ => .ok cut.toUTF8, fun _ => .ok (), fun _ _ => .ok (), fun _ => .ok ()⟩
    let arguments : Arguments := ⟨["a.json"], none, .table, none, false, false⟩
    (∃ text, render reports .json none false true = .listed .output text true ∧
        Json.read text = .ok (.array [first.toJson, second.toJson])) ∧
      (∃ text, render reports .table none false true = .printed text ∧ text ≠ "") ∧
      render reports .pretty none false true = .printed (String.join
        [Report.snippet "a: 1".toList "a.yaml" first, Report.snippet [] "c.yaml" second]) ∧
      (run arguments ⟨none, false⟩ false files).code = 1 := by
  intro first second reports cut files arguments
  obtain ⟨_, hjson, _, htable, ⟨_, hquiet, _⟩, _⟩ := render_spec reports none false
  have hfits : ∀ diagnostic ∈ [first, second], diagnostic.Fits := by
    simp [first, second, Diagnostic.Fits, Position.Fits, Range.onLine]
  have htexts : ∀ diagnostic ∈ [first, second], diagnostic.filePath.isText = true := by decide
  obtain ⟨hlisted, _, hread⟩ := hjson true htexts
  obtain ⟨text, hprinted, hempty, _⟩ := htable true
  have hsome : text ≠ "" := fun h => List.cons_ne_nil _ _ (hempty.mp h)
  refine ⟨⟨_, hlisted, hread hfits⟩, ⟨text, hprinted, hsome⟩, hquiet, ?_⟩
  have hcontent : ∀ path, files.readText path = .ok cut := fun _ => Files.readText_of_read rfl
  obtain ⟨error, herror⟩ : ∃ error, readDocument "a.json".toList cut.toList = .error error :=
    ⟨_, by cbv⟩
  have hrejects : Rejects files none (validationOptions false) "a.json" :=
    ⟨.swagger, _, _, rfl, hcontent _, by decide +kernel, Schema.verdictOn_of_error herror _ _⟩
  rcases lintAll_cases arguments ⟨none, false⟩ files with ⟨hfails, _⟩ | ⟨_, linted, hlinted, _⟩
  · rcases hfails with ⟨_, hschema⟩ | ⟨path, _, _, hpath⟩
    · cases hschema
    · cases (hcontent path).symm.trans hpath
  · obtain ⟨hcount, _, _, _, _, hrun⟩ := render_spec linted none false
    have hcomplete :
        ((render linted .table none false false).deliver files).ending = .complete := by
      rcases ending_cases arguments false files linted with
        ⟨hlisting, _⟩ | ⟨hprinting, _⟩ | ⟨_, _, hcomplete⟩
      · exact absurd hlisting (not_listingFails (by decide))
      · exact absurd hprinting (not_printingFails_of_taken fun _ _ => rfl)
      · exact hcomplete
    refine (hrun arguments ⟨none, false⟩ files hlinted hcomplete).1.trans (if_neg fun hnone => ?_)
    rw [hnone, List.length_eq_zero_iff, ← all_isValid_iff] at hcount
    exact (all_isValid_iff_of_lintAll hlinted).mp hcount ⟨"a.json", by decide, hrejects⟩

end CommandLine

end ApiLint
