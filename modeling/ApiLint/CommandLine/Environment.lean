import ApiLint.FileName
import ApiLint.Text.Blank

/-!
# The environment of a run

Variables with a common beginning configure a run. A configuration that cannot be read
counts as if none were given. Other variables decide whether short texts are coloured. All
variables are texts; where one is not, no run gets as far as reading them.
-/

namespace ApiLint.CommandLine

abbrev Environment := List (String × String)

namespace Environment

def value? (environment : Environment) (name : String) : Option String :=
  (environment.find? fun (other, _) => other == name).map (·.2)

/-- The beginning of the names of configuring variables. -/
def configMark : Text := "SWAGGER_LINT_".toList

/-- A name without the beginning, however often it stands there. -/
def configName? (name : Text) : Nat → Option Text
  | 0 => none
  | fuel + 1 =>
    (Text.after? configMark name).map fun rest => (configName? rest fuel).getD rest

/-- The values of a configuring variable; its name may be in any case. -/
def configValues (environment : Environment) (name : String) : List String :=
  environment.filterMap fun (other, value) =>
    match configName? other.toList (other.length + 1) with
    | some rest => if (String.ofList rest).toLower = name then some value else none
    | none => none

/-- Whether short texts are coloured: only if that is forced, since nothing is a terminal. -/
def isColoured (environment : Environment) : Bool :=
  match environment.value? "CLICOLOR_FORCE" with
  | some value => value != "0"
  | none => false

end Environment

/-- How a run is configured. -/
structure Config where
  schema? : Option FileName := none
  debug : Bool := false
  deriving DecidableEq, Repr, Inhabited

def readSwitch? (word : String) : Option Bool :=
  let word := (String.ofList (Text.trim word.toList)).toLower
  if ["1", "true", "yes", "on"].contains word then some true
  else if ["", "0", "false", "no", "off"].contains word then some false
  else none

def Config.ofEnvironment (environment : Environment) : Config :=
  let schema?? : Option (Option FileName) := match environment.configValues "schema" with
    | [] => some none
    | [value] => some (some (.text value))
    | _ => none
  let debug? : Option Bool := match environment.configValues "debug" with
    | [] => some false
    | [word] => readSwitch? word
    | _ => none
  match schema??, debug? with
  | some schema?, some debug => ⟨schema?, debug⟩
  | _, _ => {}

end ApiLint.CommandLine
