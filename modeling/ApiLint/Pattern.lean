import ApiLint.Pattern.Match
import ApiLint.Pattern.Reader

/-!
# Patterns of schemas

The shorthand classes of a schema's pattern mean ASCII digits and word characters and a
fixed set of white space. They are written out before the pattern is read, and messages
show the pattern in that form. A pattern that looks around is left as it is, and its
shorthand classes range over Unicode.
-/

namespace ApiLint

/-- A pattern: the text that messages show, and the tree that matches. -/
structure Pattern where
  shown : Text
  node : Pattern.Node
  deriving Inhabited

namespace Pattern

/-- The white space of the shorthand class. -/
def spaceChars : Text :=
  [' ', '\t', '\n', '\r'] ++ [0xB, 0xC, 0xA0, 0xFEFF, 0x2003, 0x2029].map Char.ofNat

/-- The set that a shorthand letter stands for, written out. -/
def writtenOut? (c : Char) : Option Text :=
  if c == 'd' then some "[0-9]".toList
  else if c == 'D' then some "[^0-9]".toList
  else if c == 'w' then some "[A-Za-z0-9_]".toList
  else if c == 'W' then some "[^A-Za-z0-9_]".toList
  else if c == 's' then some ('[' :: spaceChars ++ [']'])
  else if c == 'S' then some (['[', '^'] ++ spaceChars ++ [']'])
  else none

/-- A pattern with its shorthand classes written out, and control characters put in. -/
def writeOut : Text → Text
  | [] => []
  | ['\\'] => ['\\']
  | '\\' :: 'c' :: letter :: rest =>
    if letter.isAlpha then Char.ofNat (letter.toNat % 32) :: writeOut rest
    else '\\' :: 'c' :: letter :: writeOut rest
  | '\\' :: c :: rest =>
    match writtenOut? c with
    | some set => set ++ writeOut rest
    | none => '\\' :: c :: writeOut rest
  | c :: rest => c :: writeOut rest

/-- The pattern that a text writes, if it is well-formed. -/
def ofText? (text : Text) : Option Pattern :=
  match Node.read false text with
  | .ok _ =>
    let shown := writeOut text
    match Node.read false shown with
    | .ok node => some ⟨shown, node⟩
    | .error _ => none
  | .error .looksAround =>
    match Node.read true text with
    | .ok node => some ⟨text, node⟩
    | .error _ => none
  | .error .malformed => none

def occursIn (pattern : Pattern) (text : Text) : Bool := pattern.node.occursIn text

end Pattern

end ApiLint
