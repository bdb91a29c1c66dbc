import ApiLint.Yaml.Token.Stream

/-!
# Events

The structure of a document as a row of events: scalars, aliases, and the starts and
ends of sequences and mappings. Events that were found before a fault are kept, since
whoever reads them may find another fault in them first.

Only the first document of a stream is read; of what follows it matters only whether
there is anything.
-/

namespace ApiLint.Yaml

/-- The anchor and the tag of a node. -/
structure Properties where
  anchor? : Option Text
  tag? : Option Text
  deriving DecidableEq, Repr, Inhabited

/-- One step through the nodes of a document. -/
inductive Event where
  | alias (name : Text)
  | scalar (properties : Properties) (text : Text) (plain : Bool)
  | sequenceStart (properties : Properties)
  | sequenceEnd
  | mappingStart (properties : Properties)
  | mappingEnd
  deriving DecidableEq, Repr, Inhabited

/-- The first document of a stream: its events and where they start, the fault that
ended it early, and whether anything follows it. -/
structure EventLog where
  events : Array (Event × Position)
  fault? : Option Fault
  more : Bool
  deriving Inhabited

namespace EventLog

/-- How far a document has been read. -/
structure State where
  stream : TokenStream
  handles : List (Text × Text)
  events : Array (Event × Position)
  deriving Inhabited

abbrev Reading := EStateM Fault State

/-- The next token, which is not taken. -/
def peek : Reading Lexeme := do
  let state ← get
  match state.stream.ready with
  | .error fault => throw fault
  | .ok stream =>
    set { state with stream := stream }
    return stream.queue.head?.getD ⟨.streamEnd, stream.spot.place⟩

def take : Reading Unit := modify fun state => { state with stream := state.stream.next }

/-- Takes the next token and looks at the one after it. -/
def takeAndPeek : Reading Lexeme := do
  take
  peek

def add (event : Event) (start : Position) : Reading Unit :=
  modify fun state => { state with events := state.events.push (event, start) }

/-- Adds the scalar that a missing node stands for. -/
def addEmpty (start : Position) : Reading Unit := add (.scalar ⟨none, none⟩ [] true) start

/-- Fails with a problem at a token while a node that began earlier was read. -/
def failAt {α : Type} (problem : Problem) (place : Position) (activity : Activity)
    (start : Position) :
    Reading α := throw ⟨problem, place, some ⟨activity, start⟩⟩

/-- The handles that need no directive. -/
def standardHandles : List (Text × Text) :=
  [("!".toList, "!".toList), ("!!".toList, "tag:yaml.org,2002:".toList)]

def resolveTag (handle suffix : Text) (start tagStart : Position) : Reading Text := do
  if handle.isEmpty then return suffix
  else match (← get).handles.find? fun pair => pair.1 = handle with
    | some (_, uri) => return uri ++ suffix
    | none => failAt .undefinedTagHandle tagStart .node start

/-- An anchor and a tag in either order, and the token after them. The tag is resolved
once both have been read. -/
def readProperties (token : Lexeme) : Reading (Properties × Lexeme) := do
  let start := token.start
  match token.kind with
  | .anchor name =>
    let token ← takeAndPeek
    match token.kind with
    | .tag handle suffix =>
      let next ← takeAndPeek
      return (⟨some name, some (← resolveTag handle suffix start token.start)⟩, next)
    | _ => return (⟨some name, none⟩, token)
  | .tag handle suffix =>
    let token ← takeAndPeek
    match token.kind with
    | .anchor name =>
      let next ← takeAndPeek
      return (⟨some name, some (← resolveTag handle suffix start start)⟩, next)
    | _ => return (⟨none, some (← resolveTag handle suffix start start)⟩, token)
  | _ => return (⟨none, none⟩, token)

/-- A scalar: the lone tag `!` counts as none. -/
def addScalar (properties : Properties) (text : Text) (style : ScalarStyle) (start : Position) :
    Reading Unit :=
  let tag? := if properties.tag? = some ['!'] then none else properties.tag?
  add (.scalar { properties with tag? := tag? } text (style == .plain)) start

mutual

/-- A node; `block` where block style is allowed, `indentless` where a sequence may
start without indentation of its own. -/
def node (block indentless : Bool) (fuel : Nat) : Reading Unit :=
  match fuel with
  | 0 => return
  | fuel + 1 => do
    let first ← peek
    match first.kind with
    | .alias name =>
      add (.alias name) first.start
      take
    | _ =>
      let (properties, token) ← readProperties first
      let start := first.start
      match token.kind, block, indentless with
      | .blockEntry, _, true =>
        add (.sequenceStart properties) start
        indentlessEntries fuel
      | .scalar text style, _, _ =>
        addScalar properties text style start
        take
      | .flowSequenceStart, _, _ =>
        add (.sequenceStart properties) start
        take
        flowEntries token.start true fuel
      | .flowMappingStart, _, _ =>
        add (.mappingStart properties) start
        take
        flowPairs token.start true fuel
      | .blockSequenceStart, true, _ =>
        add (.sequenceStart properties) start
        take
        blockEntries token.start fuel
      | .blockMappingStart, true, _ =>
        add (.mappingStart properties) start
        take
        blockPairs token.start fuel
      | _, _, _ =>
        if properties.anchor?.isSome || properties.tag?.isSome then
          add (.scalar properties [] true) start
        else
          failAt .nodeContentExpected token.start (if block then .blockNode else .flowNode) start
termination_by structural fuel

/-- The entries of an indented sequence that began at `start`. -/
def blockEntries (start : Position) (fuel : Nat) : Reading Unit :=
  match fuel with
  | 0 => return
  | fuel + 1 => do
    let token ← peek
    match token.kind with
    | .blockEntry =>
      let next ← takeAndPeek
      if next.kind = .blockEntry ∨ next.kind = .blockEnd then addEmpty next.start
      else node true false fuel
      blockEntries start fuel
    | .blockEnd =>
      add .sequenceEnd token.start
      take
    | _ => failAt .dashExpected token.start .blockSequence start
termination_by structural fuel

/-- The entries of a sequence without indentation of its own. -/
def indentlessEntries (fuel : Nat) : Reading Unit :=
  match fuel with
  | 0 => return
  | fuel + 1 => do
    let token ← peek
    match token.kind with
    | .blockEntry =>
      let next ← takeAndPeek
      if next.kind = .blockEntry ∨ next.kind = .key ∨ next.kind = .value
          ∨ next.kind = .blockEnd then
        addEmpty next.start
      else node true false fuel
      indentlessEntries fuel
    | _ => add .sequenceEnd token.start
termination_by structural fuel

/-- The pairs of an indented mapping that began at `start`. -/
def blockPairs (start : Position) (fuel : Nat) : Reading Unit :=
  match fuel with
  | 0 => return
  | fuel + 1 => do
    let token ← peek
    match token.kind with
    | .key =>
      let next ← takeAndPeek
      if next.kind = .key ∨ next.kind = .value ∨ next.kind = .blockEnd then addEmpty next.start
      else node true true fuel
      blockValue fuel
      blockPairs start fuel
    | .blockEnd =>
      add .mappingEnd token.start
      take
    | _ => failAt .keyExpected token.start .blockMapping start
termination_by structural fuel

/-- The value of a pair in an indented mapping. -/
def blockValue (fuel : Nat) : Reading Unit :=
  match fuel with
  | 0 => return
  | fuel + 1 => do
    let token ← peek
    if token.kind = .value then
      let next ← takeAndPeek
      if next.kind = .key ∨ next.kind = .value ∨ next.kind = .blockEnd then addEmpty next.start
      else node true true fuel
    else addEmpty token.start
termination_by structural fuel

/-- The entries of a sequence in brackets that began at `start`. -/
def flowEntries (start : Position) (first : Bool) (fuel : Nat) : Reading Unit :=
  match fuel with
  | 0 => return
  | fuel + 1 => do
    let token ← peek
    let token ←
      if token.kind = .flowSequenceEnd ∨ first then pure token
      else if token.kind = .flowEntry then takeAndPeek
      else failAt .sequenceCommaExpected token.start .flowSequence start
    match token.kind with
    | .flowSequenceEnd =>
      add .sequenceEnd token.start
      take
    | .key =>
      add (.mappingStart ⟨none, none⟩) token.start
      take
      singlePair fuel
      flowEntries start false fuel
    | _ =>
      node false false fuel
      flowEntries start false fuel
termination_by structural fuel

/-- The key and value of a pair that is an entry of a sequence in brackets. A missing
key takes the token in its place. -/
def singlePair (fuel : Nat) : Reading Unit :=
  match fuel with
  | 0 => return
  | fuel + 1 => do
    let token ← peek
    if token.kind = .value ∨ token.kind = .flowEntry ∨ token.kind = .flowSequenceEnd then
      take
      addEmpty token.start
    else node false false fuel
    let token ← peek
    if token.kind = .value then
      let next ← takeAndPeek
      if next.kind = .flowEntry ∨ next.kind = .flowSequenceEnd then addEmpty next.start
      else node false false fuel
    else addEmpty token.start
    add .mappingEnd (← peek).start
termination_by structural fuel

/-- The pairs of a mapping in braces that began at `start`. -/
def flowPairs (start : Position) (first : Bool) (fuel : Nat) : Reading Unit :=
  match fuel with
  | 0 => return
  | fuel + 1 => do
    let token ← peek
    let token ←
      if token.kind = .flowMappingEnd ∨ first then pure token
      else if token.kind = .flowEntry then takeAndPeek
      else failAt .mappingCommaExpected token.start .flowMapping start
    match token.kind with
    | .flowMappingEnd =>
      add .mappingEnd token.start
      take
    | .key =>
      let next ← takeAndPeek
      if next.kind = .value ∨ next.kind = .flowEntry ∨ next.kind = .flowMappingEnd then
        addEmpty next.start
      else node false false fuel
      flowValue fuel
      flowPairs start false fuel
    | _ =>
      node false false fuel
      addEmpty (← peek).start
      flowPairs start false fuel
termination_by structural fuel

def flowValue (fuel : Nat) : Reading Unit :=
  match fuel with
  | 0 => return
  | fuel + 1 => do
    let token ← peek
    if token.kind = .value then
      let next ← takeAndPeek
      if next.kind = .flowEntry ∨ next.kind = .flowMappingEnd then addEmpty next.start
      else node false false fuel
    else addEmpty token.start
termination_by structural fuel

end

def refuse {α : Type} (problem : Problem) (place : Position) : Reading α :=
  throw ⟨problem, place, none⟩

/-- The directives at the head of a document. Each kind of version and each handle may
be declared once. -/
def directives (versionSeen : Bool) (declared : List (Text × Text)) :
    Nat → Reading (List (Text × Text))
  | 0 => return declared
  | fuel + 1 => do
    let token ← peek
    match token.kind with
    | .versionDirective major minor =>
      if versionSeen then refuse .duplicateYamlDirective token.start
      else if major ≠ 1 ∨ (minor ≠ 1 ∧ minor ≠ 2) then refuse .incompatibleVersion token.start
      else
        take
        directives true declared fuel
    | .tagDirective handle uri =>
      if declared.any fun pair => pair.1 = handle then refuse .duplicateTagDirective token.start
      else
        take
        directives versionSeen (declared ++ [(handle, uri)]) fuel
    | _ => return declared

def isDocumentHead : TokenKind → Bool
  | .versionDirective .. => true
  | .tagDirective .. => true
  | .documentStart => true
  | _ => false

/-- The first document, unless the stream is empty, and the marker of its end. -/
def document (fuel : Nat) : Reading Unit := do
  let _ ← peek
  let token ← takeAndPeek
  if token.kind = .streamEnd then return
  else
    if isDocumentHead token.kind then
      let declared ← directives false [] fuel
      let token ← peek
      if token.kind ≠ .documentStart then refuse .documentStartExpected token.start
      else
        modify fun state => { state with handles := declared ++ standardHandles }
        let token ← takeAndPeek
        if isDocumentHead token.kind ∨ token.kind = .documentEnd ∨ token.kind = .streamEnd then
          addEmpty token.start
        else node true false fuel
    else node true false fuel
    if (← peek).kind = .documentEnd then take

/-- Whether anything but markers of ends follows in the stream. -/
def hasMore (stream : TokenStream) : Nat → Bool
  | 0 => true
  | fuel + 1 =>
    match stream.ready with
    | .error _ => true
    | .ok stream =>
      match stream.queue.head?.map Lexeme.kind with
      | some .documentEnd => hasMore stream.next fuel
      | some .streamEnd => false
      | _ => true

/-- Whether the character may stand in a YAML text. -/
def isAllowed (c : Char) : Bool :=
  let n := c.toNat
  n == 9 || n == 10 || n == 13 || (0x20 ≤ n && n ≤ 0x7E) || n == 0x85 || (0xA0 ≤ n && n ≤ 0xD7FF)
    || (0xE000 ≤ n && n ≤ 0xFFFD) || 0x10000 ≤ n

/-- The number of bytes before the first character that may not stand in a text. -/
def controlOffset? : Text → Option Nat
  | [] => none
  | c :: rest => if isAllowed c then (controlOffset? rest).map (· + c.utf8Size) else some 0

def ofText (text : Text) : EventLog :=
  match controlOffset? text with
  | some offset => ⟨#[], some ⟨.controlCharacter offset, .origin, none⟩, false⟩
  | none =>
    let cs := text.toArray
    let fuel := 4 * cs.size + 8
    match (document fuel).run ⟨.ofText cs, standardHandles, #[]⟩ with
    | .ok () state => ⟨state.events, none, hasMore state.stream fuel⟩
    | .error fault state => ⟨state.events, some fault, false⟩

end EventLog

end ApiLint.Yaml
