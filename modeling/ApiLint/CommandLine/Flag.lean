import ApiLint.Text.Lines

/-!
# The flags of the command line

A flag has a name, for most of them also a letter, and some take a value. The files to lint
stand without a flag.
-/

namespace ApiLint.CommandLine

def commandName : String := "swl"

/-- The name of the program with its version. -/
def versionText : String := "swagger-lint 0.1.0"

def aboutText : String := "Lint Swagger 2.0 documents against a JSON schema"

/-- How diagnostics are printed. -/
inductive OutputFormat where
  | pretty
  | json
  | table
  deriving DecidableEq, Repr, Inhabited

namespace OutputFormat

def all : List OutputFormat := [.pretty, .json, .table]

def name : OutputFormat → String
  | .pretty => "pretty"
  | .json => "json"
  | .table => "table"

def help : OutputFormat → String
  | .pretty => "Annotated source snippets"
  | .json => "Diagnostics as a JSON array"
  | .table => "One table row per diagnostic"

def ofName? (name : String) : Option OutputFormat := all.find? fun format => format.name == name

end OutputFormat

/-- A flag. -/
inductive Flag where
  | schema
  | format
  | output
  | structuralOnly
  | quiet
  | help
  | version
  deriving DecidableEq, Repr, Inhabited

namespace Flag

def all : List Flag := [.schema, .format, .output, .structuralOnly, .quiet, .help, .version]

def name : Flag → String
  | .schema => "schema"
  | .format => "format"
  | .output => "output"
  | .structuralOnly => "structural-only"
  | .quiet => "quiet"
  | .help => "help"
  | .version => "version"

def letter? : Flag → Option Char
  | .schema => some 's'
  | .format => some 'f'
  | .output => some 'o'
  | .structuralOnly => none
  | .quiet => some 'q'
  | .help => some 'h'
  | .version => some 'V'

def value? : Flag → Option String
  | .schema => some "SCHEMA"
  | .format => some "FORMAT"
  | .output => some "OUTPUT"
  | _ => none

/-- The names that the value of a flag is one of; none if it may be anything. -/
def choices : Flag → List String
  | .format => OutputFormat.all.map OutputFormat.name
  | _ => []

/-- Whether the value of a flag must not be empty. -/
def needsText : Flag → Bool
  | .output => false
  | _ => true

def purpose : Flag → String
  | .schema =>
    "JSON schema file to use instead of the bundled Swagger 2.0 schema, " ++
      "overriding SWAGGER_LINT_SCHEMA"
  | .format => "How to print diagnostics"
  | .output => "JSON output file or \"-\" for stdout"
  | .structuralOnly => "Only check document structure, not the specification rules"
  | .quiet => "Whether to suppress non-error output"
  | .help => "Print help"
  | .version => "Print version"

def shown (flag : Flag) : String :=
  match flag.value? with
  | some value => s!"--{flag.name} <{value}>"
  | none => s!"--{flag.name}"

def ofName? (name : String) : Option Flag := all.find? fun flag => flag.name == name

def ofLetter? (c : Char) : Option Flag := all.find? fun flag => flag.letter? == some c

end Flag

def filesShown : String := "<FILES>..."

def filesHelp : String := "Swagger documents (YAML or JSON) to lint"

end ApiLint.CommandLine
