import ApiLint.CommandLine.Flag
import ApiLint.Text.Similarity

/-!
# Usage and help

What is said about a command line that cannot be read, and what is said when help is asked
for: in short with one line for each flag, or at length.
-/

namespace ApiLint.CommandLine

/-- What cannot be given a value: a flag, or the row of files. -/
inductive Subject where
  | flag (flag : Flag)
  | files
  deriving DecidableEq, Repr, Inhabited

def Subject.shown : Subject → String
  | .flag given => given.shown
  | .files => filesShown

/-- The names that the value is one of. -/
def Subject.choices : Subject → List String
  | .flag given => given.choices
  | .files => []

/-- Why a command line cannot be read. Flags that were used are shown in the usage line. -/
inductive UsageError where
  | unknown (argument : String) (similar? : Option Flag) (used : List Flag)
  | unexpectedValue (value : String) (flag : Flag) (used : List Flag)
  | missingValue (subject : Subject)
  | invalidValue (value : String) (flag : Flag)
  | repeated (flag : Flag)
  | noFiles (used : List Flag)
  deriving DecidableEq, Repr, Inhabited

def usageLine (used : List Flag) : String :=
  let flags := if used.isEmpty then ["[OPTIONS]"] else used.map Flag.shown
  "Usage: " ++ " ".intercalate ([commandName] ++ flags ++ [filesShown])

def choiceLine (choices : List String) : String :=
  if choices.isEmpty then ""
  else "\n  [possible values: " ++ ", ".intercalate choices ++ "]"

def tip (text : String) : String := "\n\n  tip: " ++ text

namespace UsageError

def body : UsageError → String
  | .unknown argument similar? _ =>
    s!"unexpected argument '{argument}' found" ++
      match similar? with
      | some flag => tip s!"a similar argument exists: '--{flag.name}'"
      | none => tip s!"to pass '{argument}' as a value, use '-- {argument}'"
  | .unexpectedValue value flag _ =>
    s!"unexpected value '{value}' for '{flag.shown}' found; no more were expected"
  | .missingValue subject =>
    s!"a value is required for '{subject.shown}' but none was supplied" ++
      choiceLine subject.choices
  | .invalidValue value flag =>
    s!"invalid value '{value}' for '{flag.shown}'" ++ choiceLine flag.choices ++
      match Text.closest? value.toList (flag.choices.map String.toList) with
      | some choice => tip s!"a similar value exists: '{String.ofList choice}'"
      | none => ""
  | .repeated flag => s!"the argument '{flag.shown}' cannot be used multiple times"
  | .noFiles _ => "the following required arguments were not provided:\n  " ++ filesShown

/-- The usage line that is shown, if one is. -/
def usage? : UsageError → Option String
  | .unknown _ _ used => some (usageLine used)
  | .unexpectedValue _ _ used => some (usageLine used)
  | .repeated _ => some (usageLine [])
  | .noFiles used =>
    some ("Usage: " ++ " ".intercalate ([commandName] ++ used.map Flag.shown ++ [filesShown]))
  | .missingValue _ => none
  | .invalidValue _ _ => none

/-- The whole text about a command line that cannot be read. -/
def message (error : UsageError) : String :=
  let usage := match error.usage? with
    | some line => "\n\n" ++ line
    | none => ""
  "error: " ++ error.body ++ usage ++ "\n\nFor more information, try '--help'.\n"

end UsageError

/-! ## Help -/

def indent (n : Nat) : String := String.ofList (List.replicate n ' ')

def padded (width : Nat) (text : String) : String := text ++ indent (width - text.length)

def listed (flag : Flag) : String :=
  match flag.letter? with
  | some c => s!"-{String.singleton c}, {flag.shown}"
  | none => indent 4 ++ flag.shown

def listWidth : Nat := (Flag.all.map fun flag => (listed flag).length).foldl max 0

def defaultNote : Flag → Option String
  | .format => some s!"[default: {OutputFormat.pretty.name}]"
  | _ => none

def shortLine (flag : Flag) : String :=
  let notes := match flag with
    | .format => (defaultNote flag).toList ++
        ["[possible values: " ++ ", ".intercalate flag.choices ++ "]"]
    | .help => ["(see more with '--help')"]
    | _ => []
  indent 2 ++ padded (listWidth + 2) (listed flag) ++
    " ".intercalate (flag.purpose :: notes) ++ "\n"

def longLines (flag : Flag) : String :=
  let heading := indent 2 ++ listed flag ++ "\n"
  let purpose := match flag with
    | .help => flag.purpose ++ " (see a summary with '-h')"
    | _ => flag.purpose
  let choices := match flag with
    | .format =>
      let width := (flag.choices.map String.length).foldl max 0
      "\n" ++ indent 10 ++ "Possible values:\n" ++ String.join (OutputFormat.all.map fun format =>
        indent 10 ++ "- " ++ padded (width + 2) (format.name ++ ":") ++ format.help ++ "\n")
    | _ => ""
  let note := match defaultNote flag with
    | some text => indent 10 ++ "\n" ++ indent 10 ++ text ++ "\n"
    | none => ""
  heading ++ indent 10 ++ purpose ++ "\n" ++ choices ++ note

def helpText (long : Bool) : String :=
  let files :=
    if long then indent 2 ++ filesShown ++ "\n" ++ indent 10 ++ filesHelp ++ "\n"
    else indent 2 ++ filesShown ++ indent 2 ++ filesHelp ++ "\n"
  let flags :=
    if long then "\n".intercalate (Flag.all.map longLines)
    else String.join (Flag.all.map shortLine)
  aboutText ++ "\n\n" ++ usageLine [] ++ "\n\nArguments:\n" ++ files ++ "\nOptions:\n" ++ flags

end ApiLint.CommandLine
