import ApiLint.Text.Lines

/-!
# Names of files

A file is named by a path, and a path is a row of bytes. Mostly these are a text. A file with
another name can be opened all the same, but where its name has to be shown, replacement
characters stand for the bytes that belong to no character, and where a text is wanted it cannot
be given at all.
-/

namespace ApiLint

/-! ## Bytes that may be no text -/

namespace Utf8

/-- The number of bytes of the characters that begin with this byte; 1 if there are none. -/
def lengthFrom (first : UInt8) : Nat :=
  if 0xC2 ≤ first ∧ first ≤ 0xDF then 2
  else if 0xE0 ≤ first ∧ first ≤ 0xEF then 3
  else if 0xF0 ≤ first ∧ first ≤ 0xF4 then 4
  else 1

/-- Whether some character of several bytes begins with these two. -/
def canFollow (first second : UInt8) : Bool :=
  let least := if first = 0xE0 then 0xA0 else if first = 0xF0 then 0x90 else 0x80
  let greatest := if first = 0xED then 0x9F else if first = 0xF4 then 0x8F else 0xBF
  1 < lengthFrom first && least ≤ second && second ≤ greatest

/-- Whether a byte goes on with the character that a piece is the front of. -/
def continues (piece : List UInt8) (byte : UInt8) : Bool :=
  match piece with
  | [] => false
  | [first] => canFollow first byte
  | first :: more => more.length + 1 < lengthFrom first && 0x80 ≤ byte && byte ≤ 0xBF

/-- Bytes in pieces, `piece` being the one that is open: a piece is a character, or as much of one
as there is before another begins, or a byte that begins none. -/
def pieces (piece : List UInt8) : List UInt8 → List (List UInt8)
  | [] => if piece.isEmpty then [] else [piece]
  | byte :: rest =>
    if continues piece byte then pieces (piece ++ [byte]) rest
    else if piece.isEmpty then pieces [byte] rest
    else piece :: pieces [byte] rest

/-- The character that a piece is, if it is a whole one. -/
def char? (piece : List UInt8) : Option Char :=
  (String.fromUTF8? ⟨piece.toArray⟩).bind fun text => text.toList.head?

end Utf8

/-! ## Names -/

/-- The path that names a file: a text, or bytes that are not the UTF-8 of any. -/
inductive FileName where
  | text (path : String)
  | bytes (path : ByteArray) (noText : ¬ path.IsValidUTF8)

namespace FileName

instance : DecidableEq FileName
  | .text path, .text other => decidable_of_iff (path = other) (by simp)
  | .bytes path _, .bytes other _ => decidable_of_iff (path.data = other.data)
    (by rw [bytes.injEq, ByteArray.ext_iff])
  | .text _, .bytes _ _ => isFalse nofun
  | .bytes _ _, .text _ => isFalse nofun

instance : Coe String FileName := ⟨.text⟩

instance : Inhabited FileName := ⟨.text ""⟩

def text? : FileName → Option String
  | .text path => some path
  | .bytes _ _ => none

def isText (name : FileName) : Bool := name.text?.isSome

/-- What stands for a piece of a name that is no character. -/
def replacement : Char := Char.ofNat 0xFFFD

/-- The name as far as it can be shown. Slashes, points and ASCII letters are the same in it, and
there is nothing else that the name of a file is asked for. -/
def shown : FileName → String
  | .text path => path
  | .bytes path _ =>
    String.ofList ((Utf8.pieces [] path.toList).map fun piece =>
      (Utf8.char? piece).getD replacement)

instance : Repr FileName := ⟨fun name _ => repr name.shown⟩

/-- A character of two bytes, the front of one with three, a byte that begins none, and a letter. -/
example : (bytes ⟨#[0xC3, 0xA9, 0xE2, 0x82, 0xFF, 0x61]⟩ (by decide)).shown =
    String.ofList ['é', replacement, replacement, 'a'] := by
  decide +kernel

/-! ## Parts of a path -/

/-- The last component of a path that names a file: `.` components and trailing
slashes do not count, and a path that ends in `..` names none. -/
def base? (path : Text) : Option Text :=
  match ((path.split '/').filter fun part => part ≠ [] ∧ part ≠ ['.']).getLast? with
  | some last => if last = ['.', '.'] then none else some last
  | none => none

/-- What follows the last point of the file name; none without a point, or when
the only point leads the name. -/
def extension? (path : Text) : Option Text :=
  match base? path with
  | none => none
  | some name =>
    match (name.split '.').reverse with
    | extension :: before :: more =>
      if more.isEmpty ∧ before.isEmpty then none else some extension
    | _ => none

end FileName

end ApiLint
