import ApiLint.Yaml.Token.Scalar

/-!
# Reading names, tags and directives

An anchor names a node and an alias repeats it. A tag is written in full between
angles, or as a suffix after a handle; directives at the head of a document declare
its version and its handles. Tags may hold escaped octets, which spell UTF-8.
-/

namespace ApiLint.Yaml

/-- The name of an anchor or alias at its mark. A gap or one of a few marks has to
follow. -/
def readName (cs : Array Char) (activity : Activity) (spot : Spot) : Except Fault (Text × Spot) :=
  let (name, next) := (spot.skip 1).span cs isNameChar
  let after := next.char? cs 0
  if !name.isEmpty && (isGapHere after
      || isOneOf ['?', ':', ',', ']', '}', '%', '@', Char.ofNat 0x60] after) then
    .ok (name, next)
  else next.fault .alphanumericExpected activity spot.place

/-- How many octets a character has that starts with this one. -/
def octetCount (octet : Nat) : Nat :=
  if octet < 0x80 then 1 else if octet / 0x20 = 6 then 2 else if octet / 0x10 = 14 then 3
  else if octet / 8 = 30 then 4 else 0

/-- An octet written as `%` and two hexadecimal digits. -/
def octet? (cs : Array Char) (spot : Spot) : Option Nat :=
  if spot.char? cs 0 == some '%' then hexNumber? cs (spot.skip 1) 2 else none

/-- The trailing octets of a character, `wanted` of them. -/
def trailingOctets (cs : Array Char) (activity : Activity) (start : Position) (spot : Spot)
    (held : List Nat) : Nat → Except Fault (List Nat × Spot)
  | 0 => .ok (held.reverse, spot)
  | wanted + 1 =>
    match octet? cs spot with
    | none => spot.fault .escapedOctetExpected activity start
    | some octet =>
      if octet / 0x40 = 2 then
        trailingOctets cs activity start (spot.skip 3) (octet :: held) wanted
      else spot.fault .trailingOctet activity start

def ofOctets (octets : List Nat) : Text :=
  ((String.fromUTF8? (octets.map Nat.toUInt8).toByteArray).getD "\ufffd").toList

def readOctets (cs : Array Char) (activity : Activity) (start : Position) (spot : Spot) :
    Except Fault (Text × Spot) := do
  match octet? cs spot with
  | none => spot.fault .escapedOctetExpected activity start
  | some octet =>
    if octetCount octet = 0 then spot.fault .leadingOctet activity start
    else
      let (octets, spot) ←
        trailingOctets cs activity start (spot.skip 3) [octet] (octetCount octet - 1)
      return (ofOctets octets, spot)

/-- Whether the character may stand in a tag; some only between angles. -/
def isUriChar (verbatim : Bool) (c : Char) : Bool :=
  isNameChar c || [';', '/', '?', ':', '@', '&', '=', '+', '$', '.', '%', '!', '~', '*', '\'', '(',
    ')'].contains c || (verbatim && [',', '[', ']'].contains c)

/-- The characters of a tag from here on. -/
def uriFrom (cs : Array Char) (verbatim : Bool) (activity : Activity) (start : Position)
    (spot : Spot) (held : Text) : Nat → Except Fault (Text × Spot)
  | 0 => .ok (held, spot)
  | fuel + 1 => do
    match spot.char? cs 0 with
    | none => return (held, spot)
    | some c =>
      if c == '%' then
        let (character, next) ← readOctets cs activity start spot
        uriFrom cs verbatim activity start next (held ++ character) fuel
      else if isUriChar verbatim c then
        uriFrom cs verbatim activity start (spot.skip 1) (held ++ [c]) fuel
      else return (held, spot)

/-- The rest of a tag whose first part has been read, up to a gap. At least one
character has to be there in all. -/
def readUri (cs : Array Char) (verbatim : Bool) (activity : Activity) (before : Text)
    (start : Position) (spot : Spot) : Except Fault (Text × Spot) := do
  let (uri, next) ← uriFrom cs verbatim activity start spot [] cs.size
  if before.isEmpty && uri.isEmpty then next.fault .tagUriExpected activity start
  else return (before.drop 1 ++ uri, next)

/-- A handle: an exclamation mark, perhaps a name and another mark. -/
def readHandle (cs : Array Char) (directive : Bool) (start : Position) (spot : Spot) :
    Except Fault (Text × Spot) :=
  if spot.char? cs 0 != some '!' then
    spot.fault .exclamationExpected (if directive then .tagDirectiveHandle else .tag) start
  else
    let (name, next) := (spot.skip 1).span cs isNameChar
    if next.char? cs 0 == some '!' then .ok ('!' :: name ++ ['!'], next.skip 1)
    else if directive && !name.isEmpty then next.fault .exclamationExpected .tagDirectiveName start
    else .ok ('!' :: name, next)

/-- Whether the text is a handle with a mark at either end. -/
def isFullHandle (handle : Text) : Bool := 2 ≤ handle.length && handle.getLast? == some '!'

/-- The handle and suffix of a tag. The handle is empty for a tag written in full. -/
def tagParts (cs : Array Char) (spot : Spot) : Except Fault (Text × Text × Spot) := do
  let start := spot.place
  if spot.char? cs 1 == some '<' then
    let (suffix, next) ← readUri cs true .tagUri [] start (spot.skip 2)
    if next.char? cs 0 == some '>' then return ([], suffix, next.skip 1)
    else next.fault .closingAngleExpected .tag start
  else
    let (handle, next) ← readHandle cs false start spot
    if isFullHandle handle then
      let (suffix, next) ← readUri cs false .tagUri [] start next
      return (handle, suffix, next)
    else
      let (suffix, next) ← readUri cs false .tagUri handle start next
      if suffix.isEmpty then return ([], ['!'], next) else return (['!'], suffix, next)

/-- A tag at its exclamation mark. A gap has to follow, or a comma inside brackets. -/
def readTag (cs : Array Char) (flow : Bool) (spot : Spot) : Except Fault (Text × Text × Spot) := do
  let (handle, suffix, next) ← tagParts cs spot
  let after := next.char? cs 0
  if isGapHere after || (flow && after == some ',') then return (handle, suffix, next)
  else next.fault .whitespaceOrBreakExpected .tag spot.place

def versionDigits : Nat := 9

def readVersionNumber (cs : Array Char) (start : Position) (spot : Spot) :
    Except Fault (Nat × Spot) :=
  let (digits, next) := spot.span cs Char.isDigit
  if digits.isEmpty then next.fault .versionNumberExpected .yamlDirective start
  else if digits.length > versionDigits then
    (spot.skip versionDigits).fault .longVersionNumber .yamlDirective start
  else .ok (digits.foldl (fun n c => n * 10 + (c.toNat - 48)) 0, next)

/-- The version that a directive declares. -/
def readVersion (cs : Array Char) (start : Position) (spot : Spot) :
    Except Fault (TokenKind × Spot) := do
  let (major, spot) ← readVersionNumber cs start (spot.skipBlanks cs)
  if spot.char? cs 0 != some '.' then spot.fault .digitOrPointExpected .yamlDirective start
  else
    let (minor, spot) ← readVersionNumber cs start (spot.skip 1)
    return (.versionDirective major minor, spot)

/-- The handle that a directive declares, and what it stands for. -/
def readHandleMeaning (cs : Array Char) (start : Position) (spot : Spot) :
    Except Fault (TokenKind × Spot) := do
  let (handle, spot) ← readHandle cs true start (spot.skipBlanks cs)
  if !isBlankHere (spot.char? cs 0) then spot.fault .whitespaceExpected .tagDirective start
  else
    let (uri, spot) ← readUri cs true .tagDirectiveUri [] start (spot.skipBlanks cs)
    if !isGapHere (spot.char? cs 0) then spot.fault .whitespaceOrBreakExpected .tagDirective start
    else return (.tagDirective handle uri, spot)

/-- A directive at its percent sign, up to the start of the next line. -/
def readDirective (cs : Array Char) (spot : Spot) : Except Fault (TokenKind × Spot) := do
  let start := spot.place
  let (name, next) := (spot.skip 1).span cs isNameChar
  if name.isEmpty then next.fault .directiveNameExpected .directive start
  else if !isGapHere (next.char? cs 0) then next.fault .nonAlphabeticCharacter .directive start
  else
    let (kind, next) ←
      if name = "YAML".toList then readVersion cs start next
      else if name = "TAG".toList then readHandleMeaning cs start next
      else next.fault .unknownDirective .directive start
    let next := (next.skipBlanks cs).skipComment cs
    if !isLineEndHere (next.char? cs 0) then next.fault .commentOrBreakExpected .directive start
    else return (kind, if isBreakHere (next.char? cs 0) then next.skipBreak cs else next)

end ApiLint.Yaml
