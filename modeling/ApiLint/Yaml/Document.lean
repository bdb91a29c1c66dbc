import ApiLint.Yaml.Event
import ApiLint.Yaml.Plain

/-!
# The value of a document

The events of a document are put together to one value. On the way scalars get their
meaning, aliases are replaced by what they name, and mappings are kept free of equal keys.
What is wrong with a value is reported with the trail of keys and indices that leads to
it.

Values nest at most 128 levels deep, which also ends aliases that contain themselves; and
no more than 100 aliases are followed for each event of the document. The reading of a
value pays for each event that it looks at from a budget large enough for all of that.
-/

namespace ApiLint.Yaml

/-- The way from the root of a value to a part of it. -/
inductive Trail where
  | root
  | item (parent : Trail) (index : Nat)
  | entry (parent : Trail) (key : Text)
  | alias (parent : Trail)
  | oddEntry (parent : Trail)
  deriving Repr, Inhabited

namespace Trail

mutual

/-- The trail as it is mentioned: keys after points, indices in brackets. -/
def display : Trail → String
  | .root => "."
  | .item parent index => s!"{display parent}[{index}]"
  | .entry parent key => s!"{lead parent}{String.ofList key}"
  | .alias parent => display parent
  | .oddEntry parent => s!"{lead parent}?"

/-- What stands before a key. -/
def lead : Trail → String
  | .root => ""
  | .item parent index => s!"{display parent}[{index}]."
  | .entry parent key => s!"{lead parent}{String.ofList key}."
  | .alias parent => s!"{display parent}."
  | .oddEntry parent => s!"{lead parent}?."

end

end Trail

/-- What is wrong with a value. -/
inductive Defect where
  | duplicateKey (key : Yaml)
  | integerTooLarge (n : Int)
  | notA (expected : String) (text : Text)
  deriving Repr, Inhabited

def Defect.message : Defect → String
  | .duplicateKey key => s!"duplicate entry {mentionKey key}"
  | .integerTooLarge n =>
    let size := if n < 0 then "i128" else "u128"
    s!"invalid type: integer `{n}` as {size}, expected any YAML value"
  | .notA expected text =>
    s!"invalid value: string {String.ofList (Text.quoted text)}, expected {expected}"

/-- Why a text has no YAML value. -/
inductive ReadError where
  | fault (fault : Fault)
  | defect (defect : Defect) (trail : Trail) (place : Position)
  | unknownAnchor (place : Position)
  | recursionLimit (place : Position)
  | repetitionLimit
  | endOfEvents
  | moreThanOneDocument
  deriving Repr, Inhabited

def ReadError.message : ReadError → String
  | .fault found => found.message
  | .defect found trail place =>
    let lead := if trail.display = "." then "" else trail.display ++ ": "
    s!"{lead}{found.message}{mention place}"
  | .unknownAnchor place => s!"unknown anchor{mention place}"
  | .recursionLimit place => s!"recursion limit exceeded{mention place}"
  | .repetitionLimit => "repetition limit exceeded"
  | .endOfEvents => "EOF while parsing a value"
  | .moreThanOneDocument =>
    "deserializing from YAML containing more than one document is not supported"

/-- The events of a document, for each alias among them the event it stands for, and
what ended the document early. -/
structure Document where
  events : Array (Event × Position)
  targets : List (Nat × Nat)
  stop? : Option ReadError
  deriving Inhabited

namespace Document

/-- The anchors met so far. A name is numbered by how many names came before it, also
when it is used again; under each number the event anchored last is kept. -/
structure Anchors where
  numbers : List (Text × Nat)
  nodes : List (Nat × Nat)
  uses : List (Nat × Nat)

/-- The value under a key; later pairs stand in front. -/
def lookup? {α : Type} [DecidableEq α] (key : α) : List (α × Nat) → Option Nat
  | [] => none
  | (other, n) :: rest => if other = key then some n else lookup? key rest

/-- The number of different names. -/
def Anchors.count (anchors : Anchors) : Nat := (anchors.numbers.map Prod.fst).eraseDups.length

def Anchors.note (anchors : Anchors) (index : Nat) : Option Text → Anchors
  | none => anchors
  | some name =>
    { anchors with
      numbers := (name, anchors.count) :: anchors.numbers
      nodes := (anchors.count, index) :: anchors.nodes }

def propertiesOf : Event → Properties
  | .scalar properties _ _ => properties
  | .sequenceStart properties => properties
  | .mappingStart properties => properties
  | _ => ⟨none, none⟩

/-- Notes the anchors of events and the uses of aliases. An alias without an anchor
before it ends the document: the answer then has its index and place. -/
def noteAll (anchors : Anchors) (index : Nat) :
    List (Event × Position) → Anchors × Option (Nat × Position)
  | [] => (anchors, none)
  | (.alias name, place) :: rest =>
    match lookup? name anchors.numbers with
    | none => (anchors, some (index, place))
    | some count =>
      noteAll { anchors with uses := (index, count) :: anchors.uses } (index + 1) rest
  | (event, _) :: rest => noteAll (anchors.note index (propertiesOf event).anchor?) (index + 1) rest

def ofLog (log : EventLog) : Document :=
  let (anchors, unknown?) := noteAll ⟨[], [], []⟩ 0 log.events.toList
  let targets := anchors.uses.filterMap fun (index, count) =>
    (lookup? count anchors.nodes).map fun target => (index, target)
  match unknown? with
  | some (index, place) => ⟨log.events.extract 0 index, targets, some (.unknownAnchor place)⟩
  | none => ⟨log.events, targets, log.fault?.map .fault⟩

/-- How many levels of sequences and mappings are open at most. -/
def depthLimit : Nat := 128

/-- How many aliases are followed at most. -/
def jumpLimit (document : Document) : Nat := document.events.size * 100

/-- What a step answers: a result, the index of the next event, and how many aliases
have been followed. -/
abbrev Step (α : Type) := Except ReadError (α × Nat × Nat)

/-- What is reported when no event is left. -/
def exhausted (document : Document) : ReadError := document.stop?.getD .endOfEvents

/-- The name of a local tag, without its exclamation mark. -/
def localTag? : Option Text → Option String
  | some ['!'] => some "!"
  | some ('!' :: name) => some (String.ofList name)
  | _ => none

def coreTag (name : String) : Text := ("tag:yaml.org,2002:" ++ name).toList

def scalarValue (tag? : Option Text) (text : Text) (plain : Bool) : Except Defect Yaml :=
  let untagged : Except Defect Yaml :=
    if plain then (Plain.meaning text).mapError .integerTooLarge
    else .ok (.string (String.ofList text))
  match tag? with
  | none => untagged
  | some tag =>
    if tag = coreTag "bool" then
      match Plain.bool? text with
      | some b => .ok (.bool b)
      | none => .error (.notA "a boolean" text)
    else if tag = coreTag "int" then
      match Plain.integer text with
      | .value n => .ok (.number (.int n))
      | .tooLarge n => .error (.integerTooLarge n)
      | .none => .error (.notA "an integer" text)
    else if tag = coreTag "float" then
      match Plain.double? text with
      | some x => .ok (.number (.float x))
      | none => .error (.notA "a float" text)
    else if tag = coreTag "null" then
      if Plain.isNull text then .ok .null else .error (.notA "null" text)
    else .ok (.string (String.ofList text))

mutual

/-- The value that starts with the event at `index`; `depth` more levels may open. -/
def value (document : Document) (depth : Nat) (trail : Trail) (index jumps fuel : Nat) :
    Except ReadError (Yaml × Nat × Nat) :=
  match fuel with
  | 0 => .error .repetitionLimit
  | fuel + 1 => do
    match document.events[index]? with
    | none => .error document.exhausted
    | some (.alias _, _) =>
      if jumps + 1 > document.jumpLimit then .error .repetitionLimit
      else
        let target := (lookup? index document.targets).getD index
        let (found, _, jumps) ← value document depth (.alias trail) target (jumps + 1) fuel
        return (found, index + 1, jumps)
    | some (.scalar properties text plain, place) =>
      let tag? := localTag? properties.tag?
      match scalarValue (if tag?.isSome then none else properties.tag?) text plain with
      | .error defect => .error (.defect defect trail place)
      | .ok found => return ((tag?.map fun tag => tagged tag found).getD found, index + 1, jumps)
    | some (.sequenceStart properties, place) =>
      if depth = 0 then .error (.recursionLimit place)
      else
        let (found, next, jumps) ← items document (depth - 1) trail 0 (index + 1) jumps [] fuel
        let found := sequence found
        let tagged? := (localTag? properties.tag?).map fun tag => tagged tag found
        return (tagged?.getD found, next, jumps)
    | some (.mappingStart properties, place) =>
      if depth = 0 then .error (.recursionLimit place)
      else
        let (found, next, jumps) ←
          entries document (depth - 1) trail place (index + 1) jumps [] fuel
        let found := mapping found
        let tagged? := (localTag? properties.tag?).map fun tag => tagged tag found
        return (tagged?.getD found, next, jumps)
    | some (_, place) => .error (.recursionLimit place)
termination_by structural fuel

/-- The items of a sequence from the event at `index` on, after `count` of them. -/
def items (document : Document) (depth : Nat) (trail : Trail) (count index jumps : Nat)
    (held : List Yaml) (fuel : Nat) : Except ReadError (List Yaml × Nat × Nat) :=
  match fuel with
  | 0 => .error .repetitionLimit
  | fuel + 1 => do
    match document.events[index]? with
    | none => .error document.exhausted
    | some (.sequenceEnd, _) => return (held.reverse, index + 1, jumps)
    | some _ =>
      let (item, next, jumps) ← value document depth (.item trail count) index jumps fuel
      items document depth trail (count + 1) next jumps (item :: held) fuel
termination_by structural fuel

/-- The entries of a mapping that began at `start`, from the event at `index` on. -/
def entries (document : Document) (depth : Nat) (trail : Trail) (start : Position)
    (index jumps : Nat) (held : List (Yaml × Yaml)) (fuel : Nat) :
    Except ReadError (List (Yaml × Yaml) × Nat × Nat) :=
  match fuel with
  | 0 => .error .repetitionLimit
  | fuel + 1 => do
    match document.events[index]? with
    | none => .error document.exhausted
    | some (.mappingEnd, _) => return (held.reverse, index + 1, jumps)
    | some (event, _) =>
      let (key, next, jumps) ← value document depth trail index jumps fuel
      if held.any fun entry => same entry.1 key then
        .error (.defect (.duplicateKey key) trail start)
      else
        let below := match event with
          | .scalar _ text _ => Trail.entry trail text
          | _ => .oddEntry trail
        let (item, next, jumps) ← value document depth below next jumps fuel
        entries document depth trail start next jumps ((key, item) :: held) fuel
termination_by structural fuel

end

/-- The budget for reading a document: each alias followed costs at most one pass over
the events. -/
def budget (document : Document) : Nat :=
  (document.jumpLimit + 2) * (document.events.size + 2)

/-- The value of a whole document; one without events is null. -/
def read (document : Document) : Except ReadError Yaml :=
  if document.events.isEmpty && document.stop?.isNone then .ok null
  else
    match document.value depthLimit .root 0 0 document.budget with
    | .error error => .error error
    | .ok (found, _, _) =>
      match document.stop? with
      | some stop => .error stop
      | none => .ok found

end Document

def read (text : Text) : Except ReadError Yaml :=
  let log := EventLog.ofText text
  match (Document.ofLog log).read with
  | .error error => .error error
  | .ok found => if log.more then .error .moreThanOneDocument else .ok found

end ApiLint.Yaml
