import ApiLint.Json.Value

/-!
# Reading JSON

The reader works on the UTF-8 bytes of a text, because the columns it reports
count bytes. An error has a cause and a place: the line, from 1, and the number of
bytes read in that line. A cause noticed by looking at a byte counts that byte as
read.

Values nest at most 127 levels deep. Every function is bounded by a budget that
the whole text pays for: each step of the budget consumes a byte or ends the run.
-/

namespace ApiLint.Json

/-- Why a text is no JSON. -/
inductive Cause where
  | eofInValue
  | eofInList
  | eofInObject
  | eofInString
  | expectedColon
  | expectedListCommaOrEnd
  | expectedObjectCommaOrEnd
  | expectedIdent
  | expectedValue
  | invalidEscape
  | invalidNumber
  | numberOutOfRange
  | controlCharacterInString
  | keyMustBeString
  | loneLeadingSurrogate
  | trailingComma
  | trailingCharacters
  | unexpectedEndOfHexEscape
  | recursionLimitExceeded
  deriving DecidableEq, Repr, Inhabited

def Cause.message : Cause → String
  | .eofInValue => "EOF while parsing a value"
  | .eofInList => "EOF while parsing a list"
  | .eofInObject => "EOF while parsing an object"
  | .eofInString => "EOF while parsing a string"
  | .expectedColon => "expected `:`"
  | .expectedListCommaOrEnd => "expected `,` or `]`"
  | .expectedObjectCommaOrEnd => "expected `,` or `\x7d`"
  | .expectedIdent => "expected ident"
  | .expectedValue => "expected value"
  | .invalidEscape => "invalid escape"
  | .invalidNumber => "invalid number"
  | .numberOutOfRange => "number out of range"
  | .controlCharacterInString => "control character (\\u0000-\\u001F) found while parsing a string"
  | .keyMustBeString => "key must be a string"
  | .loneLeadingSurrogate => "lone leading surrogate in hex escape"
  | .trailingComma => "trailing comma"
  | .trailingCharacters => "trailing characters"
  | .unexpectedEndOfHexEscape => "unexpected end of hex escape"
  | .recursionLimitExceeded => "recursion limit exceeded"

/-- A cause at the line, from 1, and the number of bytes read in it. -/
structure ReadError where
  cause : Cause
  line : Nat
  column : Nat
  deriving DecidableEq, Repr, Inhabited

def ReadError.message (e : ReadError) : String :=
  s!"{e.cause.message} at line {e.line} column {e.column}"

namespace Reader

/-- A cause and the number of bytes read when it was found. -/
abbrev Fault := Cause × Nat

/-- What a step answers: a result and where the text goes on, or a fault. -/
abbrev Step (α : Type) := Except Fault (α × Nat)

/-- How many levels of lists and objects are too many. -/
def depthLimit : Nat := 128

/-- The line of the byte after the first `count`, and how many of them are in it. -/
def place (bytes : ByteArray) (count : Nat) : Nat × Nat :=
  let read := (bytes.toList.take count).reverse
  ((read.filter (· == 10)).length + 1, (read.takeWhile (· != 10)).length)

/-- A fault found by looking at the byte at `i` counts that byte as read. -/
def peeked {α : Type} (bytes : ByteArray) (cause : Cause) (i : Nat) : Step α :=
  .error (cause, min bytes.size (i + 1))

/-- A fault after `i` bytes. -/
def failed {α : Type} (cause : Cause) (i : Nat) : Step α := .error (cause, i)

/-- Whether the byte is a blank, a tab or a line break. -/
def isSpace (b : UInt8) : Bool := b == 32 || b == 10 || b == 9 || b == 13

/-- Whether the byte is an ASCII digit. -/
def isDigit (b : UInt8) : Bool := 48 ≤ b && b ≤ 57

/-- The first place from `i` on that holds no white space. -/
def skipSpace (bytes : ByteArray) (i : Nat) : Nat → Nat
  | 0 => i
  | fuel + 1 =>
    match bytes[i]? with
    | some b => if isSpace b then skipSpace bytes (i + 1) fuel else i
    | none => i

/-- The digits from `i` on, appended to the number `n`; how many and where they end. -/
def digits (bytes : ByteArray) (i : Nat) (n count : Nat) : Nat → Nat × Nat × Nat
  | 0 => (n, count, i)
  | fuel + 1 =>
    match bytes[i]? with
    | some b =>
      if isDigit b then digits bytes (i + 1) (n * 10 + (b.toNat - 48)) (count + 1) fuel
      else (n, count, i)
    | none => (n, count, i)

/-- The largest exponent that is read in full. -/
def exponentLimit : Nat := 2147483647

/-- The digits of an exponent from `i` on. A value past the limit ends the reading
right after the digit that passed it, and is then marked as excessive. -/
def exponentDigits (bytes : ByteArray) (i n : Nat) : Nat → Nat × Nat × Bool
  | 0 => (n, i, false)
  | fuel + 1 =>
    match bytes[i]? with
    | some b =>
      if isDigit b then
        let next := n * 10 + (b.toNat - 48)
        if next > exponentLimit then (n, i + 1, true) else exponentDigits bytes (i + 1) next fuel
      else (n, i, false)
    | none => (n, i, false)

/-- A finite double, or the fault of a number that is too large. -/
def finite (x : Double) (i : Nat) : Step Json :=
  match x with
  | .finite .. => .ok (.number (.float x), i)
  | _ => failed .numberOutOfRange i

/-- The exponent of a number whose `e` has been read, up to `i`. -/
def exponent (bytes : ByteArray) (negative : Bool) (significand : Nat) (power : Int) (i : Nat) :
    Step Json :=
  let (down, i) := match bytes[i]? with
    | some 43 => (false, i + 1)
    | some 45 => (true, i + 1)
    | _ => (false, i)
  match bytes[i]? with
  | none => failed .eofInValue i
  | some b =>
    if isDigit b then
      let (size, stop, excessive) := exponentDigits bytes (i + 1) (b.toNat - 48) bytes.size
      if excessive then
        if significand ≠ 0 ∧ !down then failed .numberOutOfRange stop
        else
          let (_, _, stop) := digits bytes stop 0 0 bytes.size
          finite (.ofDecimal negative 0 0) stop
      else
        finite (.ofDecimal negative significand (if down then power - size else power + size)) stop
    else failed .invalidNumber (i + 1)

/-- A number whose sign has been read, up to `i`. -/
def number (bytes : ByteArray) (negative : Bool) (i : Nat) : Step Json :=
  match bytes[i]? with
  | none => failed .eofInValue i
  | some first =>
    if !isDigit first then failed .invalidNumber (i + 1)
    else
      let (whole, count, stop) := digits bytes i 0 0 bytes.size
      if first == 48 ∧ count > 1 then peeked bytes .invalidNumber (i + 1)
      else match bytes[stop]? with
        | some 46 =>
          let (significand, places, stop) := digits bytes (stop + 1) whole 0 bytes.size
          if places = 0 then
            if stop < bytes.size then peeked bytes .invalidNumber stop
            else peeked bytes .eofInValue stop
          else match bytes[stop]? with
            | some 69 => exponent bytes negative significand (-places) (stop + 1)
            | some 101 => exponent bytes negative significand (-places) (stop + 1)
            | _ => finite (.ofDecimal negative significand (-places)) stop
        | some 69 => exponent bytes negative whole 0 (stop + 1)
        | some 101 => exponent bytes negative whole 0 (stop + 1)
        | _ =>
          let value : Int := if negative then -(whole : Int) else whole
          if holdsInt value && !(negative && whole == 0) then
            .ok (.number (.int value), stop)
          else finite (.ofDecimal negative whole 0) stop

def hexValue? (b : UInt8) : Option Nat :=
  if isDigit b then some (b.toNat - 48)
  else if 97 ≤ b && b ≤ 102 then some (b.toNat - 87)
  else if 65 ≤ b && b ≤ 70 then some (b.toNat - 55)
  else none

/-- Four hexadecimal digits from `i` on. -/
def hexUnit (bytes : ByteArray) (i : Nat) : Step Nat :=
  match bytes[i]?, bytes[i + 1]?, bytes[i + 2]?, bytes[i + 3]? with
  | some a, some b, some c, some d =>
    match hexValue? a, hexValue? b, hexValue? c, hexValue? d with
    | some a, some b, some c, some d => .ok (((a * 16 + b) * 16 + c) * 16 + d, i + 4)
    | _, _, _, _ => failed .invalidEscape (i + 4)
  | _, _, _, _ => failed .eofInString bytes.size

/-- A character escape whose `\u` has been read, up to `i`. Two surrogates make one
character; a lone one makes none. -/
def unicodeEscape (bytes : ByteArray) (i : Nat) : Except Fault (Char × Nat) := do
  let (first, i) ← hexUnit bytes i
  if 0xDC00 ≤ first ∧ first ≤ 0xDFFF then failed .loneLeadingSurrogate i
  else if first < 0xD800 ∨ first > 0xDBFF then .ok (Char.ofNat first, i)
  else match bytes[i]? with
    | none => failed .eofInString i
    | some 92 =>
      match bytes[i + 1]? with
      | none => failed .eofInString (i + 1)
      | some 117 =>
        let (second, i) ← hexUnit bytes (i + 2)
        if second < 0xDC00 ∨ second > 0xDFFF then failed .loneLeadingSurrogate i
        else .ok (Char.ofNat ((first - 0xD800) * 0x400 + (second - 0xDC00) + 0x10000), i)
      | some _ => failed .unexpectedEndOfHexEscape (i + 2)
    | some _ => failed .unexpectedEndOfHexEscape (i + 1)

/-- An escape whose backslash has been read, up to `i`. -/
def escape (bytes : ByteArray) (i : Nat) : Step Char :=
  match bytes[i]? with
  | none => failed .eofInString i
  | some 34 => .ok ('"', i + 1)
  | some 92 => .ok ('\\', i + 1)
  | some 47 => .ok ('/', i + 1)
  | some 98 => .ok (Char.ofNat 8, i + 1)
  | some 102 => .ok (Char.ofNat 12, i + 1)
  | some 110 => .ok ('\n', i + 1)
  | some 114 => .ok ('\r', i + 1)
  | some 116 => .ok ('\t', i + 1)
  | some 117 => unicodeEscape bytes (i + 1)
  | some _ => failed .invalidEscape (i + 1)

/-- A string whose opening quote has been read, up to `i`; its bytes so far. -/
def string (bytes : ByteArray) (i : Nat) (held : ByteArray) : Nat → Step String
  | 0 => failed .eofInString i
  | fuel + 1 =>
    match bytes[i]? with
    | none => failed .eofInString i
    | some 34 => .ok ((String.fromUTF8? held).getD "", i + 1)
    | some 92 =>
      match escape bytes (i + 1) with
      | .error fault => .error fault
      | .ok (c, next) => string bytes next (held ++ c.toString.toUTF8) fuel
    | some b =>
      if b < 32 then failed .controlCharacterInString (i + 1)
      else string bytes (i + 1) (held.push b) fuel

/-- The rest of a word such as `null` whose first letter has been read, up to `i`. -/
def word (bytes : ByteArray) (value : Json) (i : Nat) : List UInt8 → Step Json
  | [] => .ok (value, i)
  | letter :: letters =>
    match bytes[i]? with
    | none => failed .eofInValue i
    | some b =>
      if b == letter then word bytes value (i + 1) letters else failed .expectedIdent (i + 1)

mutual

/-- A value at `i`, below `depth` open lists and objects. -/
def value (bytes : ByteArray) (depth i fuel : Nat) : Step Json :=
  match fuel with
  | 0 => failed .eofInValue i
  | fuel + 1 =>
    let i := skipSpace bytes i bytes.size
    match bytes[i]? with
    | none => peeked bytes .eofInValue i
    | some 110 => word bytes .null (i + 1) [117, 108, 108]
    | some 116 => word bytes (.bool true) (i + 1) [114, 117, 101]
    | some 102 => word bytes (.bool false) (i + 1) [97, 108, 115, 101]
    | some 45 => number bytes true (i + 1)
    | some 34 =>
      match string bytes (i + 1) .empty bytes.size.succ with
      | .error fault => .error fault
      | .ok (s, next) => .ok (.string s, next)
    | some 91 =>
      if depth + 1 = depthLimit then peeked bytes .recursionLimitExceeded i
      else match items bytes (depth + 1) (i + 1) true [] fuel with
        | .error fault => .error fault
        | .ok (found, next) => .ok (.array found, next)
    | some 123 =>
      if depth + 1 = depthLimit then peeked bytes .recursionLimitExceeded i
      else match members bytes (depth + 1) (i + 1) true [] fuel with
        | .error fault => .error fault
        | .ok (found, next) => .ok (.object found, next)
    | some b => if isDigit b then number bytes false i else peeked bytes .expectedValue i
termination_by structural fuel

/-- The items of a list from `i` on, up to its bracket; `first` before the first
item, and the earlier items in reverse. -/
def items (bytes : ByteArray) (depth i : Nat) (first : Bool) (held : List Json) (fuel : Nat) :
    Step (List Json) :=
  match fuel with
  | 0 => failed .eofInList i
  | fuel + 1 =>
    let i := skipSpace bytes i bytes.size
    match bytes[i]? with
    | none => peeked bytes .eofInList i
    | some 93 => .ok (held.reverse, i + 1)
    | some b =>
      let start : Step Unit :=
        if first then .ok ((), i)
        else if b == 44 then
          let next := skipSpace bytes (i + 1) bytes.size
          match bytes[next]? with
          | some 93 => peeked bytes .trailingComma next
          | some _ => .ok ((), next)
          | none => peeked bytes .eofInValue next
        else peeked bytes .expectedListCommaOrEnd i
      match start with
      | .error fault => .error fault
      | .ok (_, i) =>
        match value bytes depth i fuel with
        | .error fault => .error fault
        | .ok (item, next) => items bytes depth next false (item :: held) fuel
termination_by structural fuel

/-- The members of an object from `i` on, up to its brace; `first` before the first
member, and the earlier members. -/
def members (bytes : ByteArray) (depth i : Nat) (first : Bool) (held : Members) (fuel : Nat) :
    Step Members :=
  match fuel with
  | 0 => failed .eofInObject i
  | fuel + 1 =>
    let i := skipSpace bytes i bytes.size
    match bytes[i]? with
    | none => peeked bytes .eofInObject i
    | some 125 => .ok (held, i + 1)
    | some b =>
      let start : Step Unit :=
        if first then
          if b == 34 then .ok ((), i + 1) else peeked bytes .keyMustBeString i
        else if b == 44 then
          let next := skipSpace bytes (i + 1) bytes.size
          match bytes[next]? with
          | some 34 => .ok ((), next + 1)
          | some 125 => peeked bytes .trailingComma next
          | some _ => peeked bytes .keyMustBeString next
          | none => peeked bytes .eofInValue next
        else peeked bytes .expectedObjectCommaOrEnd i
      match start with
      | .error fault => .error fault
      | .ok (_, i) =>
        match string bytes i .empty bytes.size.succ with
        | .error fault => .error fault
        | .ok (name, next) =>
          let colon := skipSpace bytes next bytes.size
          match bytes[colon]? with
          | none => peeked bytes .eofInObject colon
          | some 58 =>
            match value bytes depth (colon + 1) fuel with
            | .error fault => .error fault
            | .ok (item, next) => members bytes depth next false (held.insert name item) fuel
          | some _ => peeked bytes .expectedColon colon
termination_by structural fuel

end

/-- A whole text as one value, with nothing but white space after it. -/
def document (bytes : ByteArray) : Except Fault Json :=
  match value bytes 0 0 (2 * bytes.size + 2) with
  | .error fault => .error fault
  | .ok (found, next) =>
    let stop := skipSpace bytes next bytes.size
    if stop < bytes.size then .error (.trailingCharacters, min bytes.size (stop + 1)) else .ok found

end Reader

def read (text : String) : Except ReadError Json :=
  let bytes := text.toUTF8
  match Reader.document bytes with
  | .ok found => .ok found
  | .error (cause, count) =>
    let (line, column) := Reader.place bytes count
    .error ⟨cause, line, column⟩

end ApiLint.Json
