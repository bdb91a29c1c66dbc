import ApiLint.Tree

/-!
# The concrete tree of JSON

Any number of values in a row make a document, and comments of both kinds may
stand between any two tokens. Escapes inside a string are nodes of their own, a
backslash and the character after it; so the digits of a `\u` escape belong to the
plain content that follows. A text that is no JSON has no tree.

The readers take the characters as an array and a place in it, and answer with
what they read and the place after it.
-/

namespace ApiLint.Tree.OfJson

/-- What a reader answers: a result and the place after it, or nothing. -/
abbrev Step (α : Type) := Option (α × Nat)

def isSpace (c : Char) : Bool := c == ' ' || c == '\n' || c == '\t' || c == '\r'

/-- The first place from `i` on where `test` fails. -/
def skipWhile (test : Char → Bool) (cs : Array Char) (i : Nat) : Nat → Nat
  | 0 => i
  | fuel + 1 =>
    match cs[i]? with
    | some c => if test c then skipWhile test cs (i + 1) fuel else i
    | none => i

/-- The place after the `*/` that closes a comment. -/
def commentEnd? (cs : Array Char) (i : Nat) : Nat → Option Nat
  | 0 => none
  | fuel + 1 =>
    match cs[i]?, cs[i + 1]? with
    | some '*', some '/' => some (i + 2)
    | some _, _ => commentEnd? cs (i + 1) fuel
    | none, _ => none

/-- The comments from `i` on, and the place of the next token. -/
def gap (cs : Array Char) (i : Nat) (held : List Tree) : Nat → List Tree × Nat
  | 0 => (held.reverse, i)
  | fuel + 1 =>
    let i := skipWhile isSpace cs i cs.size
    match cs[i]?, cs[i + 1]? with
    | some '/', some '/' =>
      let stop := skipWhile (· != '\n') cs i cs.size
      gap cs stop (.named "comment" i stop [] :: held) fuel
    | some '/', some '*' =>
      match commentEnd? cs (i + 2) cs.size with
      | some stop => gap cs stop (.named "comment" i stop [] :: held) fuel
      | none => (held.reverse, i)
    | _, _ => (held.reverse, i)

/-- The parts of a string from `i` on, up to its closing quote. -/
def stringParts (cs : Array Char) (i : Nat) (held : List Tree) : Nat → Step (List Tree)
  | 0 => none
  | fuel + 1 =>
    match cs[i]? with
    | none => none
    | some '"' => some ((Tree.mark "\"" i (i + 1) :: held).reverse, i + 1)
    | some '\\' =>
      if i + 1 < cs.size then
        stringParts cs (i + 2) (.named "escape_sequence" i (i + 2) [] :: held) fuel
      else none
    | some _ =>
      let stop := skipWhile (fun c => c != '"' && c != '\\' && c != '\n') cs i cs.size
      if stop = i then none
      else stringParts cs stop (.named "string_content" i stop [] :: held) fuel

/-- A string at `i`. -/
def string (cs : Array Char) (i : Nat) : Step Tree :=
  (stringParts cs (i + 1) [.mark "\"" i (i + 1)] cs.size).map fun (parts, stop) =>
    (.named "string" i stop parts, stop)

/-- A number or a word at `i`. -/
def bare (cs : Array Char) (i : Nat) : Step Tree :=
  let stop := skipWhile (fun c => c.isAlphanum || c == '-' || c == '+' || c == '.') cs i cs.size
  let word := String.ofList (cs.extract i stop).toList
  if stop = i then none
  else if word = "true" ∨ word = "false" ∨ word = "null" then some (.named word i stop [], stop)
  else some (.named "number" i stop [], stop)

mutual

/-- A value at `i`. -/
def value (cs : Array Char) (i fuel : Nat) : Step Tree :=
  match fuel with
  | 0 => none
  | fuel + 1 =>
    match cs[i]? with
    | some '{' =>
      (members cs (i + 1) [.mark "\x7b" i (i + 1)] fuel).map fun (parts, stop) =>
        (.named "object" i stop parts, stop)
    | some '[' =>
      (items cs (i + 1) [.mark "[" i (i + 1)] fuel).map fun (parts, stop) =>
        (.named "array" i stop parts, stop)
    | some '"' => string cs i
    | _ => bare cs i
termination_by structural fuel

/-- The rest of a list from `i` on, up to its bracket; what was read is held in
reverse. -/
def items (cs : Array Char) (i : Nat) (held : List Tree) (fuel : Nat) : Step (List Tree) :=
  match fuel with
  | 0 => none
  | fuel + 1 =>
    let (comments, i) := gap cs i [] cs.size
    let held := comments.reverse ++ held
    match cs[i]? with
    | some ']' => some ((Tree.mark "]" i (i + 1) :: held).reverse, i + 1)
    | some ',' => items cs (i + 1) (.mark "," i (i + 1) :: held) fuel
    | _ =>
      match value cs i fuel with
      | some (item, stop) => items cs stop (item :: held) fuel
      | none => none
termination_by structural fuel

/-- The rest of an object from `i` on, up to its brace; what was read is held in
reverse. -/
def members (cs : Array Char) (i : Nat) (held : List Tree) (fuel : Nat) : Step (List Tree) :=
  match fuel with
  | 0 => none
  | fuel + 1 =>
    let (comments, i) := gap cs i [] cs.size
    let held := comments.reverse ++ held
    match cs[i]? with
    | some '}' => some ((Tree.mark "\x7d" i (i + 1) :: held).reverse, i + 1)
    | some ',' => members cs (i + 1) (.mark "," i (i + 1) :: held) fuel
    | some '"' =>
      match string cs i with
      | none => none
      | some (key, stop) =>
        let (before, colon) := gap cs stop [] cs.size
        match cs[colon]? with
        | some ':' =>
          let (after, start) := gap cs (colon + 1) [] cs.size
          match value cs start fuel with
          | none => none
          | some (item, stop) =>
            let parts := [key.withField .key] ++ before ++ [.mark ":" colon (colon + 1)] ++ after
              ++ [item.withField .value]
            members cs stop (.named "pair" i stop parts :: held) fuel
        | _ => none
    | _ => none
termination_by structural fuel

end

/-- The values and comments of a document from `i` on. -/
def values (cs : Array Char) (i : Nat) (held : List Tree) : Nat → Option (List Tree)
  | 0 => none
  | fuel + 1 =>
    let (comments, i) := gap cs i [] cs.size
    let held := comments.reverse ++ held
    if i < cs.size then
      match value cs i (2 * cs.size + 2) with
      | some (item, stop) => values cs stop (item :: held) fuel
      | none => none
    else some held.reverse

end ApiLint.Tree.OfJson

namespace ApiLint.Tree

def ofJson? (text : Text) : Option Tree :=
  let cs := text.toArray
  (OfJson.values cs 0 [] (cs.size + 1)).map fun parts =>
    Tree.inBytes text (.named "document" (firstStart parts 0) cs.size parts)

end ApiLint.Tree
