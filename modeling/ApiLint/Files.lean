import ApiLint.FileName

/-!
# Files

A run of the program knows files by what reading, creating and writing them would give. A file
is read as a text, and only well-formed UTF-8 is one. The two outputs that a run is started with
are written like files; they need not be created, but they may fail as well.

A `Disk` is a set of files and directories under names, and says what the operations give for
every name: a name is a path whose steps have to lead through directories. All names on it are
texts.
-/

namespace ApiLint

/-- Why a file cannot be read or created. -/
inductive FileError where
  | missing
  | notDirectory
  | isDirectory
  | notText
  | other (message : String)
  deriving DecidableEq, Repr, Inhabited

def FileError.message : FileError → String
  | .missing => "No such file or directory (os error 2)"
  | .notDirectory => "Not a directory (os error 20)"
  | .isDirectory => "Is a directory (os error 21)"
  | .notText => "stream did not contain valid UTF-8"
  | .other message => message

/-- Where a text is written: to a file, or to the output that a run is started with. -/
inductive Target where
  | file (name : String)
  | output
  deriving DecidableEq, Repr, Inhabited

def Target.shown : Target → String
  | .file name => name
  | .output => "stdout"

/-- Why a text is not written to its end: the error, the front of the text that was taken, and
whether the error came out only when all of the text had been handed over. -/
structure WriteFault where
  error : FileError
  taken : String
  late : Bool
  deriving DecidableEq, Repr, Inhabited

/-- What reading a file gives, whether a file can be created or replaced, and what becomes of a
text that is written to a target, or said to the error output. -/
structure Files where
  read : FileName → Except FileError ByteArray
  create : String → Except FileError Unit
  write : Target → String → Except WriteFault Unit
  say : String → Except WriteFault Unit

def Files.readText (files : Files) (name : FileName) : Except FileError String :=
  match files.read name with
  | .error error => .error error
  | .ok content =>
    match String.fromUTF8? content with
    | some text => .ok text
    | none => .error .notText

/-- What stands under a name. -/
inductive FileContent where
  | bytes (content : ByteArray)
  | directory
  deriving Inhabited

/-- The steps of a name, without those that stay where they are. -/
def pathSteps (name : String) : List Text :=
  (Text.split '/' name.toList).filter fun step => !step.isEmpty && step != ['.']

/-- Files and directories under names. A directory also exists if something stands in it. -/
structure Disk where
  entries : List (List Text × FileContent)
  deriving Inhabited

namespace Disk

def empty : Disk := ⟨[]⟩

def put (disk : Disk) (name : String) (content : FileContent) : Disk :=
  ⟨(pathSteps name, content) :: disk.entries⟩

/-- What stands at the end of some steps. -/
def at? (disk : Disk) (steps : List Text) : Option FileContent :=
  match disk.entries.find? fun (other, _) => other == steps with
  | some (_, content) => some content
  | none =>
    if steps.isEmpty || disk.entries.any (fun (other, _) => steps.isPrefixOf other) then
      some .directory
    else none

/-- Where steps lead from a directory, the steps to it being given in reverse: every step
but the last has to lead to a directory. -/
def walk (disk : Disk) (here : List Text) : List Text → Except FileError (List Text)
  | [] => .ok here.reverse
  | step :: rest =>
    let next := if step = ['.', '.'] then here.drop 1 else step :: here
    if rest.isEmpty then .ok next.reverse
    else
      match disk.at? next.reverse with
      | some .directory => walk disk next rest
      | some (.bytes _) => .error .notDirectory
      | none => .error .missing

def namesDirectory (name : String) : Bool :=
  match (Text.split '/' name.toList).reverse with
  | last :: _ :: _ => last.isEmpty || last == ['.']
  | _ => false

/-- Where a name leads. Nothing is known outside of the disk. -/
def locate (disk : Disk) (name : String) : Except FileError (List Text) :=
  if name.isEmpty || (name.startsWith "/" && !(pathSteps name).isEmpty) then .error .missing
  else disk.walk [] (pathSteps name)

def read (disk : Disk) (name : String) : Except FileError ByteArray := do
  match disk.at? (← disk.locate name) with
  | some (.bytes content) =>
    if namesDirectory name then throw .notDirectory else return content
  | some .directory => throw .isDirectory
  | none => throw .missing

def create (disk : Disk) (name : String) : Except FileError Unit := do
  match disk.at? (← disk.locate name) with
  | some (.bytes _) => if namesDirectory name then throw .notDirectory
  | some .directory => throw .isDirectory
  | none => if namesDirectory name then throw .isDirectory

/-- The files of a disk, with outputs that take everything. -/
def files (disk : Disk) : Files where
  read name := match name.text? with
    | some path => disk.read path
    | none => .error .missing
  create := disk.create
  write _ _ := .ok ()
  say _ := .ok ()

end Disk

end ApiLint
