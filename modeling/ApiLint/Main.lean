import ApiLint.CommandLine.Run

/-!
# The command

The outermost layer reads the files that a run may look at, lets the run decide what to
print, and prints it.
-/

namespace ApiLint.Main

open CommandLine

def variableNames : List String := ["SWAGGER_LINT_SCHEMA", "SWAGGER_LINT_DEBUG", "CLICOLOR_FORCE"]

/-- The variables that are set. -/
def environment : IO Environment := do
  let found ← variableNames.mapM fun name => do return (name, ← IO.getEnv name)
  return found.filterMap fun (name, value?) => value?.map fun value => (name, value)

def fileError : IO.Error → FileError
  | .noFileOrDirectory .. => .missing
  | .inappropriateType .. => .isDirectory
  | error => .other (toString error)

def readFile (name : String) : IO (Except FileError ByteArray) := do
  try
    return .ok (← IO.FS.readBinFile name)
  catch error =>
    return .error (fileError error)

def namesRead (arguments : List String) (environment : Environment) : List String :=
  match readArguments arguments with
  | .ok asked =>
    let schema? := asked.schema?.or (Config.ofEnvironment environment).schema?
    (asked.files ++ schema?.toList).filterMap FileName.text?
  | .error _ => []

/-- What is known of the files, and of outputs that nothing has been written to yet. -/
def filesOf (contents : List (String × Except FileError ByteArray)) : Files where
  read name := ((contents.find? fun (other, _) => .text other == name).map (·.2)).getD
    (.error .missing)
  create _ := .ok ()
  write _ _ := .ok ()
  say _ := .ok ()

def catching (action : IO Unit) : IO (Except FileError Unit) := do
  try
    action
    return .ok ()
  catch error =>
    return .error (fileError error)

/-- Writes the file that a run leaves, if there is one. -/
def save (completion : Completion) : IO (Except FileError Unit) :=
  match completion.written? with
  | some (target, text) => catching (IO.FS.writeFile target text)
  | none => return .ok ()

def print (completion : Completion) : IO (Except FileError Unit) :=
  if completion.stdout.isEmpty then return .ok ()
  else catching do
    let stdout ← IO.getStdout
    stdout.putStr completion.stdout
    stdout.flush

def conclude (completion : Completion) : IO UInt32 := do
  match ← catching do (← IO.getStderr).putStr completion.stderr with
  | .ok () => return UInt32.ofNat completion.code
  | .error _ => return UInt32.ofNat cutOffCode

end ApiLint.Main

open ApiLint ApiLint.Main ApiLint.CommandLine in
/-- Runs the command. If a file cannot be written, or the output takes nothing, the run is told
so, and ends accordingly. -/
def main (arguments : List String) : IO UInt32 := do
  let environment ← environment
  let contents ← (namesRead arguments environment).mapM fun name => do
    return (name, ← readFile name)
  let files := filesOf contents
  let completion := execute arguments environment files
  match ← save completion with
  | .error error =>
    let create (_ : String) := Except.error error
    conclude (execute arguments environment { files with create })
  | .ok () =>
    match ← print completion with
    | .error error =>
      let write (_ : Target) (_ : String) := Except.error (WriteFault.mk error "" false)
      conclude (execute arguments environment { files with write })
    | .ok () => conclude completion
