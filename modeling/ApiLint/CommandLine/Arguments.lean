import ApiLint.CommandLine.Usage
import ApiLint.FileName

/-!
# Reading the command line

Arguments are read from left to right. What a flag or a file gives is held back until the
next flag is recognised or the line ends, and only then looked at; so an argument that is no
flag at all is reported before a bad value that stands right before it. After two hyphens
everything is a file.

Only command lines of texts are read here. What a run is asked to do, the `Arguments`, goes
further: files and a schema may have any names.
-/

namespace ApiLint.CommandLine

/-- What a run is asked to do. -/
structure Arguments where
  files : List FileName
  schema? : Option FileName
  format : OutputFormat
  output? : Option String
  structuralOnly : Bool
  quiet : Bool
  deriving DecidableEq, Repr, Inhabited

/-- Why a run does not start. -/
inductive Halt where
  | help (long : Bool)
  | version
  | misuse (error : UsageError)
  deriving DecidableEq, Repr, Inhabited

/-- What has been read and not been looked at yet. -/
inductive Held where
  | nothing
  | flag (flag : Flag) (value? : Option String)
  | files (names : List String)
  deriving DecidableEq, Repr, Inhabited

/-- How far the command line has been read: the flags in force with their values, the files,
and what is held back. -/
structure Reading where
  given : List (Flag × String)
  files : List String
  held : Held
  deriving DecidableEq, Repr, Inhabited

namespace Reading

def start : Reading := ⟨[], [], .nothing⟩

def used (reading : Reading) : List Flag := reading.given.map (·.1)

def give (reading : Reading) (flag : Flag) (value : String) : Except Halt Reading :=
  if reading.used.contains flag then .error (.misuse (.repeated flag))
  else if flag.value?.isSome && flag.needsText && value.isEmpty then
    .error (.misuse (.missingValue (.flag flag)))
  else if !flag.choices.isEmpty && !flag.choices.contains value then
    .error (.misuse (.invalidValue value flag))
  else .ok { reading with given := reading.given ++ [(flag, value)] }

/-- Looks at what is held back. -/
def settle (reading : Reading) : Except Halt Reading :=
  match reading.held with
  | .nothing => .ok reading
  | .flag flag none => .error (.misuse (.missingValue (.flag flag)))
  | .flag flag (some value) => { reading with held := .nothing }.give flag value
  | .files names =>
    if names.any String.isEmpty then .error (.misuse (.missingValue .files))
    else .ok { reading with files := reading.files ++ names, held := .nothing }

def takeSwitch (reading : Reading) (flag : Flag) (long : Bool) : Except Halt Reading := do
  let reading ← reading.settle
  match flag with
  | .help => throw (.help long)
  | .version => throw .version
  | _ => reading.give flag ""

/-- Takes a flag that has a value, which may stand in the same argument. -/
def takeValued (reading : Reading) (flag : Flag) (value? : Option String) :
    Except Halt Reading := do
  let reading ← reading.settle
  match value? with
  | some value => reading.give flag value
  | none => return { reading with held := .flag flag none }

def takeFile (reading : Reading) (name : String) : Except Halt Reading :=
  match reading.held with
  | .files names => .ok { reading with held := .files (names ++ [name]) }
  | _ => do return { (← reading.settle) with held := .files [name] }

/-- Takes an argument that is no flag: the value a flag is waiting for, or a file. -/
def takePlain (reading : Reading) (text : String) : Except Halt Reading :=
  match reading.held with
  | .flag flag none => .ok { reading with held := .flag flag (some text) }
  | _ => reading.takeFile text

/-- The flags shown in the usage line beside a suggested one. -/
def usedWith (reading : Reading) (similar? : Option Flag) : List Flag :=
  match similar? with
  | some flag => if reading.used.contains flag then reading.used else reading.used ++ [flag]
  | none => reading.used

/-- Takes an argument that begins with two hyphens, which are left out of `body`. -/
def takeLong (reading : Reading) (body : Text) : Except Halt Reading :=
  let name := String.ofList (body.takeWhile (· != '='))
  let value? := match body.dropWhile (· != '=') with
    | _ :: value => some (String.ofList value)
    | [] => none
  match Flag.ofName? name with
  | some flag =>
    if flag.value?.isSome then reading.takeValued flag value?
    else
      match value? with
      | some value =>
        .error (.misuse (.unexpectedValue value flag (reading.usedWith (some flag))))
      | none => reading.takeSwitch flag true
  | none =>
    let names := Flag.all.map fun flag => flag.name.toList
    let similar? := (Text.closest? name.toList names).bind fun found =>
      Flag.ofName? (String.ofList found)
    .error (.misuse (.unknown s!"--{name}" similar? (reading.usedWith similar?)))

/-- Takes a row of letters after one hyphen. What follows the letter of a flag that has a
value is its value. -/
def takeLetters (reading : Reading) : Text → Except Halt Reading
  | [] => .ok reading
  | c :: rest =>
    match Flag.ofLetter? c with
    | none => .error (.misuse (.unknown (String.ofList ['-', c]) none []))
    | some flag =>
      if flag.value?.isSome then
        let value? := match rest with
          | [] => none
          | '=' :: value => some (String.ofList value)
          | value => some (String.ofList value)
        reading.takeValued flag value?
      else
        match reading.takeSwitch flag false with
        | .ok reading => takeLetters reading rest
        | .error halt => .error halt

/-- Takes several arguments, all of them as files. -/
def takeFiles (reading : Reading) (names : List String) : Except Halt Reading :=
  names.foldlM takeFile reading

def takeAll (reading : Reading) : List String → Except Halt Reading
  | [] => .ok reading
  | argument :: rest => do
    match argument.toList with
    | ['-', '-'] => reading.takeFiles rest
    | '-' :: '-' :: body => takeAll (← reading.takeLong body) rest
    | '-' :: c :: letters => takeAll (← reading.takeLetters (c :: letters)) rest
    | _ => takeAll (← reading.takePlain argument) rest

def valueOf? (reading : Reading) (flag : Flag) : Option String :=
  (reading.given.find? fun (other, _) => other == flag).map (·.2)

def finish (reading : Reading) : Except Halt Arguments := do
  let reading ← reading.settle
  if reading.files.isEmpty then throw (.misuse (.noFiles reading.used))
  return {
    files := reading.files.map .text
    schema? := (reading.valueOf? .schema).map .text
    format := ((reading.valueOf? .format).bind OutputFormat.ofName?).getD .pretty
    output? := reading.valueOf? .output
    structuralOnly := reading.used.contains .structuralOnly
    quiet := reading.used.contains .quiet }

end Reading

/-- What a run is asked to do by some arguments. -/
def readArguments (arguments : List String) : Except Halt Arguments := do
  (← Reading.start.takeAll arguments).finish

end ApiLint.CommandLine
