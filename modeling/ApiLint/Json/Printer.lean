import ApiLint.Json.Value
import ApiLint.Number.Shortest

/-!
# Writing JSON

Two layouts: `compact` has no white space at all, and `pretty` puts each item on
a line of its own, two blanks deeper than what holds it. Strings escape the quote,
the backslash and control characters, and nothing else.
-/

namespace ApiLint.Json

/-- Decimal exponents from -5 to 15 are positional, and positive exponents show
their sign. -/
def Number.layout : Layout := ⟨-5, 15, true⟩

def Number.render : Number → String
  | .int n => toString n
  | .float (.finite negative mantissa exponent) =>
    String.ofList (Number.layout.finite negative mantissa exponent)
  | .float _ => "null"

/-- Two hexadecimal digits, in lower case. -/
def hexByte (n : Nat) : List Char :=
  [Nat.digitChar (n / 16), Nat.digitChar (n % 16)]

/-- A character as it stands inside a string. -/
def escapeChar (c : Char) : List Char :=
  if c = '"' then ['\\', '"']
  else if c = '\\' then ['\\', '\\']
  else if c = '\n' then ['\\', 'n']
  else if c = '\r' then ['\\', 'r']
  else if c = '\t' then ['\\', 't']
  else if c.toNat = 8 then ['\\', 'b']
  else if c.toNat = 12 then ['\\', 'f']
  else if c.toNat < 32 then ['\\', 'u', '0', '0'] ++ hexByte c.toNat
  else [c]

def quote (s : String) : String :=
  String.ofList ('"' :: s.toList.flatMap escapeChar ++ ['"'])

mutual

/-- The text of a value without white space. -/
def compact : Json → String
  | .null => "null"
  | .bool b => if b then "true" else "false"
  | .number n => n.render
  | .string s => quote s
  | .array items => "[" ++ ",".intercalate (compactItems items) ++ "]"
  | .object members => "\x7b" ++ ",".intercalate (compactMembers members) ++ "\x7d"

/-- The texts of several values. -/
def compactItems : List Json → List String
  | [] => []
  | item :: rest => compact item :: compactItems rest

def compactMembers : List (String × Json) → List String
  | [] => []
  | (name, value) :: rest => (quote name ++ ":" ++ compact value) :: compactMembers rest

end

def lineBreak (level : Nat) : String := "\n" ++ String.ofList (List.replicate (2 * level) ' ')

/-- Pieces between brackets, each on its own line; nothing between them if there
are no pieces. -/
def bracketed (level : Nat) (opening closing : String) (pieces : List String) : String :=
  if pieces.isEmpty then opening ++ closing
  else
    opening ++ lineBreak (level + 1) ++ ("," ++ lineBreak (level + 1)).intercalate pieces
      ++ lineBreak level ++ closing

/-- Pieces after an opening bracket, as far as the last of them. -/
def unclosed (level : Nat) (opening : String) (pieces : List String) : String :=
  opening ++ lineBreak (level + 1) ++ ("," ++ lineBreak (level + 1)).intercalate pieces

mutual

/-- The text of a value with one item a line, for a value that stands at `level`. -/
def prettyAt (level : Nat) : Json → String
  | .array items => bracketed level "[" "]" (prettyItems (level + 1) items)
  | .object members => bracketed level "\x7b" "\x7d" (prettyMembers (level + 1) members)
  | .null => "null"
  | .bool b => if b then "true" else "false"
  | .number n => n.render
  | .string s => quote s

/-- The texts of several values that stand at `level`. -/
def prettyItems (level : Nat) : List Json → List String
  | [] => []
  | item :: rest => prettyAt level item :: prettyItems level rest

/-- The texts of several members that stand at `level`. -/
def prettyMembers (level : Nat) : List (String × Json) → List String
  | [] => []
  | (name, value) :: rest =>
    (quote name ++ ": " ++ prettyAt level value) :: prettyMembers level rest

end

/-- The text of a value with one item a line. -/
def pretty (value : Json) : String := prettyAt 0 value

end ApiLint.Json
