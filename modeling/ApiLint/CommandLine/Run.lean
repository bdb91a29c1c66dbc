import ApiLint.CommandLine.Arguments
import ApiLint.CommandLine.Environment
import ApiLint.Lint
import ApiLint.Report.Listing
import ApiLint.Report.Snippet
import ApiLint.Report.Table

/-!
# Runs of the command

A run loads a schema, lints every file in turn, shows the diagnostics in the format asked
for, and ends with a code: 0 if there is nothing to report, 1 if there are diagnostics, 2 if
the run could not be carried out. Nothing is shown before all files have been linted.

The formats differ in what becomes of a run whose output takes no more: a listing is written,
and its failure is an error like any other, while all else is printed, and a run that cannot
print is cut off on the spot, with a code of its own. So is one that cannot say to the error
output what it has to say.
-/

namespace ApiLint.CommandLine

/-- Why a run cannot be carried out. What a validator is asked for always has a value, and
excerpts are made in memory, so nothing else can go wrong. -/
inductive RunError where
  | schema (error : ValidationError)
  | unreadable (path : FileName) (error : FileError)
  | unwritable (target : Target) (error : FileError)
  | unlisted (reason : String)
  deriving Repr, Inhabited

def RunError.message : RunError → String
  | .schema error => error.message
  | .unreadable path error => s!"Failed to open '{path.shown}': {error.message}"
  | .unwritable target error => s!"Failed to write {target.shown}: {error.message}"
  | .unlisted reason => s!"Failed to serialize diagnostics: {reason}"

/-- What a run leaves: its code, what it printed, and a file it has written. -/
structure Completion where
  code : Nat
  stdout : String
  stderr : String
  written? : Option (String × String)
  deriving DecidableEq, Repr, Inhabited

/-- The schema that is used: the one on the command line, or else of the environment, or
else the one for Swagger documents. -/
def loadSchema (files : Files) (path? : Option FileName) : Except RunError Schema.Source :=
  match path? with
  | some path => (files.schema path).mapError .schema
  | none => .ok .swagger

/-- What a validator is asked for. -/
def validationOptions (structuralOnly : Bool) : ValidationOptions := ⟨true, !structuralOnly⟩

def lintFile (files : Files) (source : Schema.Source) (options : ValidationOptions)
    (path : FileName) : Except RunError Report :=
  match files.readText path with
  | .error error => .error (.unreadable path error)
  | .ok text =>
    let buffer := Buffer.new path text.toList
    match (buffer.lint (.ofSource source files) options).outcome with
    | .messages diagnostics => .ok ⟨diagnostics, text.toList, path.shown⟩
    | .noUpdate => .ok ⟨[], text.toList, path.shown⟩

/-- Every file linted in turn, up to the first one that cannot be read. -/
def lintFiles (files : Files) (source : Schema.Source) (options : ValidationOptions)
    (paths : List FileName) : Except RunError (List Report) :=
  paths.mapM (lintFile files source options)

/-- The reports of the files before the first one that cannot be read. -/
def lintedBefore (files : Files) (source : Schema.Source) (options : ValidationOptions) :
    List FileName → List Report
  | [] => []
  | path :: rest =>
    match lintFile files source options path with
    | .ok report => report :: lintedBefore files source options rest
    | .error _ => []

def tint (coloured : Bool) (code text : String) : String :=
  let escape := String.singleton (Char.ofNat 0x1B)
  if coloured then escape ++ "[" ++ code ++ "m" ++ text ++ escape ++ "[0m" else text

def red : String := "31"

def green : String := "32"

/-- A report as excerpts of its source; a line of its own if it is empty, unless quiet. -/
def prettyText (coloured quiet : Bool) (report : Report) : String :=
  if report.isValid then
    if quiet then "" else tint coloured green "✓" ++ " " ++ report.fileName ++ "\n"
  else report.pretty

/-- What a run has to show: a text that is printed, or a listing that goes to a target. A
listing may be no more than the front of one. -/
inductive Rendering where
  | printed (text : String)
  | listed (target : Target) (text : String) (isWhole : Bool)
  deriving DecidableEq, Repr, Inhabited

/-- Where a listing goes; a hyphen stands for the output. -/
def targetOf (output? : Option String) : Target :=
  match output? with
  | some name => if name = "-" then .output else .file name
  | none => .output

/-- The reports in a format. Only JSON goes to a file. -/
def render (reports : List Report) (format : OutputFormat) (output? : Option String)
    (coloured quiet : Bool) : Rendering :=
  match format with
  | .pretty => .printed (String.join (reports.map (prettyText coloured quiet)))
  | .table =>
    .printed (if reports.all (·.isValid) then "" else Report.table reports ++ "\n")
  | .json =>
    let diagnostics := reports.flatMap (·.diagnostics)
    if diagnostics.all Diagnostic.isListable then
      .listed (targetOf output?) (Diagnostic.listingOf diagnostics ++ "\n") true
    else .listed (targetOf output?) (Diagnostic.brokenListing diagnostics) false

/-! ## Showing the reports -/

/-- What is taken of a text that is written, and what went wrong. Writing nothing goes well. -/
def attempt (write : String → Except WriteFault Unit) (text : String) :
    String × Option WriteFault :=
  if text.isEmpty then ("", none)
  else
    match write text with
    | .ok () => (text, none)
    | .error fault => (fault.taken, some fault)

/-- How showing the reports ends. -/
inductive Ending where
  | complete
  | failed (error : RunError)
  | cutOff (error : FileError)
  deriving Repr, Inhabited

/-- What has been shown: to the output, and in a file. -/
structure Delivery where
  ending : Ending
  stdout : String
  written? : Option (String × String)
  deriving Repr, Inhabited

/-- Why there is only the front of a listing. -/
def noTextReason : String := "path contains invalid UTF-8 characters"

/-- How a listing ends. A fault that comes out late, when all of the listing is handed over, is
one of the target; any other interrupts the making of the listing. -/
def listingEnding (target : Target) (isWhole : Bool) : Option WriteFault → Ending
  | none => if isWhole then .complete else .failed (.unlisted noTextReason)
  | some fault =>
    if !fault.late then .failed (.unlisted fault.error.message)
    else if isWhole then .failed (.unwritable target fault.error)
    else .failed (.unlisted noTextReason)

/-- Shows what there is to show. A file is created before anything is written to it. -/
def Rendering.deliver (files : Files) : Rendering → Delivery
  | .printed text =>
    let (taken, fault?) := attempt (files.write .output) text
    match fault? with
    | none => ⟨.complete, taken, none⟩
    | some fault => ⟨.cutOff fault.error, taken, none⟩
  | .listed .output text isWhole =>
    let (taken, fault?) := attempt (files.write .output) text
    ⟨listingEnding .output isWhole fault?, taken, none⟩
  | .listed (.file name) text isWhole =>
    match files.create name with
    | .error error => ⟨.failed (.unwritable (.file name) error), "", none⟩
    | .ok () =>
      let (taken, fault?) := attempt (files.write (.file name)) text
      ⟨listingEnding (.file name) isWhole fault?, "", some (name, taken)⟩

/-! ## Runs -/

/-- The reports of all files, or why there are none. -/
def lintAll (arguments : Arguments) (config : Config) (files : Files) :
    Except RunError (List Report) := do
  let source ← loadSchema files (arguments.schema?.or config.schema?)
  lintFiles files source (validationOptions arguments.structuralOnly) arguments.files

/-- What is printed about single diagnostics when debugging. -/
def debugText (arguments : Arguments) (config : Config) (files : Files) : String :=
  match config.debug, loadSchema files (arguments.schema?.or config.schema?) with
  | true, .ok source =>
    let reports :=
      lintedBefore files source (validationOptions arguments.structuralOnly) arguments.files
    String.join ((reports.flatMap (·.diagnostics)).map fun diagnostic => diagnostic.record ++ "\n")
  | _, _ => ""

/-- The line at the end of a run that was carried out. -/
def summary (reports : List Report) (coloured quiet : Bool) : String :=
  let errors := reports.foldr (fun report held => report.errorCount + held) 0
  if 0 < errors then tint coloured red s!"{errors} problem(s) in {reports.length} file(s)" ++ "\n"
  else if quiet then ""
  else tint coloured green s!"{reports.length} file(s) valid" ++ "\n"

def errorLine (coloured : Bool) (error : RunError) : String :=
  tint coloured red s!"Error! {error.message}" ++ "\n"

/-- The code of a run that is cut off because an output takes no more. -/
def cutOffCode : Nat := 101

/-- Ends a run with something that it says to the error output. -/
def Completion.saying (completion : Completion) (files : Files) (text : String) : Completion :=
  let (taken, fault?) := attempt files.say text
  { completion with
    code := if fault?.isSome then cutOffCode else completion.code
    stderr := completion.stderr ++ taken }

/-- A run. Of what is said when printing fails, only the line with the reason is kept. -/
def run (arguments : Arguments) (config : Config) (coloured : Bool) (files : Files) :
    Completion :=
  let (debug, fault?) := attempt files.say (debugText arguments config files)
  if fault?.isSome then ⟨cutOffCode, "", debug, none⟩
  else
    match lintAll arguments config files with
    | .error error => Completion.saying ⟨2, "", debug, none⟩ files (errorLine coloured error)
    | .ok reports =>
      let delivery :=
        (render reports arguments.format arguments.output? coloured arguments.quiet).deliver files
      let ended (code : Nat) : Completion := ⟨code, delivery.stdout, debug, delivery.written?⟩
      match delivery.ending with
      | .complete =>
        (ended (if reports.all (·.isValid) then 0 else 1)).saying files
          (summary reports coloured arguments.quiet)
      | .failed error => (ended 2).saying files (errorLine coloured error)
      | .cutOff error =>
        (ended cutOffCode).saying files s!"failed printing to stdout: {error.message}\n"

/-- The program: it runs, or only says something about itself or its command line. -/
def execute (arguments : List String) (environment : Environment) (files : Files) : Completion :=
  let told (text : String) := (attempt (files.write .output) text).1
  match readArguments arguments with
  | .error (.help long) => ⟨0, told (helpText long), "", none⟩
  | .error .version => ⟨0, told (versionText ++ "\n"), "", none⟩
  | .error (.misuse error) => ⟨2, "", (attempt files.say error.message).1, none⟩
  | .ok arguments => run arguments (.ofEnvironment environment) environment.isColoured files

end ApiLint.CommandLine
