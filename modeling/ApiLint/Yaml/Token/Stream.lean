import ApiLint.Yaml.Token.Tag

/-!
# The stream of tokens

Tokens are found on demand. What makes a demand reach further than one token is the
simple key, a key on one line without an indicator: only the colon after it shows that
it was one, and then a key token, and perhaps the start of a mapping, go in front of
tokens found long before. So every place where such a key may have begun is remembered,
one for each level of brackets, until a colon confirms it or it can be one no longer.

A key that begins at the indentation of an open block has to be one: losing it is a
fault.
-/

namespace ApiLint.Yaml

/-- A place where a simple key may have begun: the number of the token there, and
whether it has to be a key. -/
structure SimpleKey where
  spot : Spot
  tokenNumber : Nat
  required : Bool
  deriving Repr, Inhabited

/-- Tokens found and not yet taken, with everything needed to find more. `keys` holds
one entry for each level of brackets, the innermost first; `indents` holds the
indentation of the open blocks, the innermost first. -/
structure TokenStream where
  cs : Array Char
  spot : Spot
  started : Bool
  queue : List Lexeme
  taken : Nat
  keys : List (Option SimpleKey)
  keyAllowed : Bool
  indents : List Nat
  deriving Inhabited

namespace TokenStream

def ofText (cs : Array Char) : TokenStream :=
  ⟨cs, .origin, false, [], 0, [none], true, []⟩

/-- What finding a token answers. -/
abbrev Step := Except Fault TokenStream

/-- Whether a bracket is open. -/
def inFlow (stream : TokenStream) : Bool := 1 < stream.keys.length

/-- The indentation of the innermost block; -1 outside of all blocks. -/
def indent (stream : TokenStream) : Int :=
  match stream.indents with
  | [] => -1
  | column :: _ => column

def column (stream : TokenStream) : Nat := stream.spot.column

/-- The character `k` places on. -/
def char? (stream : TokenStream) (k : Nat) : Option Char := stream.spot.char? stream.cs k

/-- One more token at the end of the queue. -/
def push (stream : TokenStream) (kind : TokenKind) (start : Position) : TokenStream :=
  { stream with queue := stream.queue ++ [⟨kind, start⟩] }

def insert (stream : TokenStream) (number : Nat) (kind : TokenKind) (start : Position) :
    TokenStream :=
  { stream with queue := stream.queue.insertIdx (number - stream.taken) ⟨kind, start⟩ }

/-- A token at the place reached, which then moves on by `width`. -/
def emit (stream : TokenStream) (kind : TokenKind) (width : Nat) : TokenStream :=
  { stream.push kind stream.spot.place with spot := stream.spot.skip width }

def allowing (stream : TokenStream) (allowed : Bool) : TokenStream :=
  { stream with keyAllowed := allowed }

/-- A fault without an activity, at the place reached. -/
def misplaced (stream : TokenStream) (problem : Problem) : Step :=
  .error ⟨problem, stream.spot.place, none⟩

def simpleKeyLength : Nat := 1024

/-- Whether a simple key can no longer be one: its line is over, or it is too long. -/
def isStale (stream : TokenStream) (key : SimpleKey) : Bool :=
  decide (key.spot.place.line < stream.spot.place.line)
    || decide (key.spot.index + simpleKeyLength < stream.spot.index)

/-- Gives up a place where a simple key may have begun. -/
def giveUp (stream : TokenStream) : Option SimpleKey → Except Fault (Option SimpleKey)
  | some key =>
    if key.required then stream.spot.fault .colonExpected .simpleKey key.spot.place else .ok none
  | none => .ok none

/-- Gives up the simple keys that are stale, those of the outermost level first. -/
def dropStale (stream : TokenStream) : Step := do
  let keys ← stream.keys.reverse.mapM fun key? =>
    match key? with
    | some key => if stream.isStale key then stream.giveUp (some key) else .ok (some key)
    | none => .ok none
  return { stream with keys := keys.reverse }

/-- Gives up the simple key of the innermost level. -/
def dropKey (stream : TokenStream) : Step :=
  match stream.keys with
  | [] => .ok stream
  | key? :: outer => do
    let given ← stream.giveUp key?
    return { stream with keys := given :: outer }

/-- Remembers the place reached as one where a simple key may begin. -/
def saveKey (stream : TokenStream) : Step :=
  if stream.keyAllowed then do
    let required := !stream.inFlow && decide (stream.indent = stream.column)
    let key : SimpleKey := ⟨stream.spot, stream.taken + stream.queue.length, required⟩
    let stream ← stream.dropKey
    return { stream with keys := some key :: stream.keys.drop 1 }
  else .ok stream

/-- Opens a block at a column deeper than the innermost one: its start token goes to
the end of the queue, or before the token of a number. -/
def openBlock (stream : TokenStream) (column : Nat) (number? : Option Nat) (kind : TokenKind)
    (start : Position) : TokenStream :=
  if !stream.inFlow && decide (stream.indent < column) then
    let opened := match number? with
      | none => stream.push kind start
      | some number => stream.insert number kind start
    { opened with indents := column :: opened.indents }
  else stream

def closeBlocks (stream : TokenStream) (column : Int) : TokenStream :=
  if stream.inFlow then stream
  else
    let closed := stream.indents.takeWhile fun (indent : Nat) => decide (column < (indent : Int))
    { stream with
      queue := stream.queue ++ closed.map fun _ => ⟨.blockEnd, stream.spot.place⟩
      indents := stream.indents.drop closed.length }

/-- Moves on to the next token over blanks, comments and line breaks. Outside brackets a
line break allows a simple key again, and where one is allowed no tab is passed over. -/
def toNextToken (stream : TokenStream) : Nat → TokenStream
  | 0 => stream
  | fuel + 1 =>
    let spot := stream.spot
    let spot :=
      if spot.column == 0 && spot.char? stream.cs 0 == some (Char.ofNat 0xFEFF) then spot.skip 1
      else spot
    let tabs := stream.inFlow || !stream.keyAllowed
    let spot := spot.skipWhile stream.cs fun c => c == ' ' || (tabs && c == '\t')
    let spot := spot.skipComment stream.cs
    if isBreakHere (spot.char? stream.cs 0) then
      toNextToken { stream with
        spot := spot.skipBreak stream.cs
        keyAllowed := stream.keyAllowed || !stream.inFlow } fuel
    else { stream with spot := spot }

def fetchEnd (stream : TokenStream) : Step := do
  let place := stream.spot.place
  let place := if place.column = 0 then place else ⟨place.line + 1, 0⟩
  let stream := { stream with spot := ⟨stream.spot.index, place⟩ }
  let stream ← (stream.closeBlocks (-1)).dropKey
  return (stream.push .streamEnd place).allowing false

def fetchDirective (stream : TokenStream) : Step := do
  let stream ← (stream.closeBlocks (-1)).dropKey
  let (kind, next) ← readDirective stream.cs stream.spot
  return { (stream.push kind stream.spot.place).allowing false with spot := next }

def fetchDocumentMarker (stream : TokenStream) (kind : TokenKind) : Step := do
  let stream ← (stream.closeBlocks (-1)).dropKey
  return (stream.emit kind 3).allowing false

def fetchFlowStart (stream : TokenStream) (kind : TokenKind) : Step := do
  let stream ← stream.saveKey
  return ({ stream with keys := none :: stream.keys }.emit kind 1).allowing true

def fetchFlowEnd (stream : TokenStream) (kind : TokenKind) : Step := do
  let stream ← stream.dropKey
  let keys := if stream.inFlow then stream.keys.drop 1 else stream.keys
  return ({ stream with keys := keys }.emit kind 1).allowing false

def fetchFlowEntry (stream : TokenStream) : Step := do
  let stream ← stream.dropKey
  return (stream.emit .flowEntry 1).allowing true

def fetchBlockEntry (stream : TokenStream) : Step := do
  if !stream.inFlow && !stream.keyAllowed then stream.misplaced .sequenceEntryNotAllowed
  else
    let stream ← (stream.openBlock stream.column none .blockSequenceStart stream.spot.place).dropKey
    return (stream.emit .blockEntry 1).allowing true

def fetchKey (stream : TokenStream) : Step := do
  if !stream.inFlow && !stream.keyAllowed then stream.misplaced .mappingKeyNotAllowed
  else
    let stream ← (stream.openBlock stream.column none .blockMappingStart stream.spot.place).dropKey
    return (stream.emit .key 1).allowing (!stream.inFlow)

/-- The colon of a value. It makes the simple key of its level a key. -/
def fetchValue (stream : TokenStream) : Step :=
  match stream.keys with
  | some key :: outer =>
    let place := key.spot.place
    let stream := { stream.insert key.tokenNumber .key place with keys := none :: outer }
    let stream := stream.openBlock place.column (some key.tokenNumber) .blockMappingStart place
    .ok ((stream.emit .value 1).allowing false)
  | _ =>
    if !stream.inFlow && !stream.keyAllowed then stream.misplaced .mappingValueNotAllowed
    else
      let stream := stream.openBlock stream.column none .blockMappingStart stream.spot.place
      .ok ((stream.emit .value 1).allowing (!stream.inFlow))

def fetchName (stream : TokenStream) (activity : Activity) (kind : Text → TokenKind) : Step := do
  let stream ← stream.saveKey
  let (name, next) ← readName stream.cs activity stream.spot
  return { (stream.push (kind name) stream.spot.place).allowing false with spot := next }

def fetchTag (stream : TokenStream) : Step := do
  let stream ← stream.saveKey
  let (handle, suffix, next) ← readTag stream.cs stream.inFlow stream.spot
  return { (stream.push (.tag handle suffix) stream.spot.place).allowing false with spot := next }

def fetchBlockScalar (stream : TokenStream) (style : ScalarStyle) : Step := do
  let stream ← stream.dropKey
  let (text, next) ← readBlock stream.cs (style == .folded) stream.indent stream.spot
  return { (stream.push (.scalar text style) stream.spot.place).allowing true with spot := next }

def fetchQuoted (stream : TokenStream) (quote : Char) (style : ScalarStyle) : Step := do
  let stream ← stream.saveKey
  let (text, next) ← readQuoted stream.cs quote stream.spot
  return { (stream.push (.scalar text style) stream.spot.place).allowing false with spot := next }

/-- A plain scalar. When it ends on a new line, a simple key may begin there. -/
def fetchPlain (stream : TokenStream) : Step := do
  let stream ← stream.saveKey
  let (text, broken, next) ←
    readPlain stream.cs stream.inFlow (stream.indent + 1).toNat stream.spot
  return { (stream.push (.scalar text .plain) stream.spot.place).allowing broken with spot := next }

/-- The characters that no plain scalar starts with. -/
def indicators : List Char :=
  ['-', '?', ':', ',', '[', ']', '{', '}', '#', '&', '*', '!', '|', '>', '\'', '"', '%', '@',
    Char.ofNat 0x60]

/-- Whether a plain scalar starts with the character `c`, followed by `next`. -/
def startsPlain (flow : Bool) (c : Char) (next : Option Char) : Bool :=
  (!isGapHere (some c) && !indicators.contains c)
    || (c == '-' && !isBlankHere next)
    || (!flow && (c == '?' || c == ':') && !isGapHere next)

/-- The token that starts with a character at the place reached. -/
def fetchAt (stream : TokenStream) (c : Char) : Step :=
  let next := stream.char? 1
  let flow := stream.inFlow
  if stream.column == 0 && c == '%' then stream.fetchDirective
  else if stream.spot.isMarker stream.cs '-' then stream.fetchDocumentMarker .documentStart
  else if stream.spot.isMarker stream.cs '.' then stream.fetchDocumentMarker .documentEnd
  else if c == '[' then stream.fetchFlowStart .flowSequenceStart
  else if c == '{' then stream.fetchFlowStart .flowMappingStart
  else if c == ']' then stream.fetchFlowEnd .flowSequenceEnd
  else if c == '}' then stream.fetchFlowEnd .flowMappingEnd
  else if c == ',' then stream.fetchFlowEntry
  else if c == '-' && isGapHere next then stream.fetchBlockEntry
  else if c == '?' && (flow || isGapHere next) then stream.fetchKey
  else if c == ':' && (flow || isGapHere next) then stream.fetchValue
  else if c == '*' then stream.fetchName .alias .alias
  else if c == '&' then stream.fetchName .anchor .anchor
  else if c == '!' then stream.fetchTag
  else if c == '|' && !flow then stream.fetchBlockScalar .literal
  else if c == '>' && !flow then stream.fetchBlockScalar .folded
  else if c == '\'' then stream.fetchQuoted c .singleQuoted
  else if c == '"' then stream.fetchQuoted c .doubleQuoted
  else if startsPlain flow c next then stream.fetchPlain
  else stream.spot.fault .noTokenStartsHere .token stream.spot.place

/-- Finds one more token, and the block ends before it. -/
def fetch (stream : TokenStream) : Step :=
  if !stream.started then .ok { stream.push .streamStart .origin with started := true }
  else do
    let stream ← (stream.toNextToken (stream.cs.size + 1)).dropStale
    let stream := stream.closeBlocks stream.column
    match stream.char? 0 with
    | none => stream.fetchEnd
    | some c => stream.fetchAt c

/-- Whether the token at the front of the queue may still turn out to be a key. -/
def isPending (stream : TokenStream) : Bool :=
  stream.keys.any fun key? =>
    match key? with
    | some key => key.tokenNumber == stream.taken
    | none => false

/-- Finds tokens until the front of the queue is settled. -/
def settle (stream : TokenStream) : Nat → Step
  | 0 => .ok stream
  | fuel + 1 =>
    if stream.queue.isEmpty then do settle (← stream.fetch) fuel
    else do
      let stream ← stream.dropStale
      if stream.isPending then settle (← stream.fetch) fuel else return stream

/-- Finds tokens until one can be taken. -/
def ready (stream : TokenStream) : Step := stream.settle (2 * stream.cs.size + 4)

def next (stream : TokenStream) : TokenStream :=
  { stream with queue := stream.queue.drop 1, taken := stream.taken + 1 }

end TokenStream

end ApiLint.Yaml
