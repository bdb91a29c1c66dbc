import ApiLint.Text.Lines

/-!
# Texts as bytes

A character is stored as one to four bytes of UTF-8, and trees and keys are placed
by bytes. Not every byte offset lies between two characters: a piece can be cut out
of a text only between two offsets that do, and `bytes?` refuses every other pair.
-/

namespace ApiLint.Text

def byteLength : Text → Nat
  | [] => 0
  | c :: rest => c.utf8Size + byteLength rest

/-- The longest front of a text that fits into this many bytes. -/
def takeBytes : Nat → Text → Text
  | _, [] => []
  | n, c :: rest => if c.utf8Size ≤ n then c :: takeBytes (n - c.utf8Size) rest else []

/-- The text without its first `n` bytes; none if the last of them ends no character. -/
def dropBytes? : Nat → Text → Option Text
  | 0, text => some text
  | _ + 1, [] => none
  | n + 1, c :: rest =>
    if c.utf8Size ≤ n + 1 then dropBytes? (n + 1 - c.utf8Size) rest else none

/-- The first `n` bytes of a text; none if the last of them ends no character. -/
def takeBytes? (n : Nat) (text : Text) : Option Text :=
  let taken := takeBytes n text
  if byteLength taken = n then some taken else none

/-- The piece from byte `start` up to, not including, byte `stop`. -/
def bytes? (start stop : Nat) (text : Text) : Option Text :=
  if start ≤ stop then (dropBytes? start text).bind (takeBytes? (stop - start)) else none

/-- The byte that character number `n` starts at. -/
def byteOf? : Nat → Text → Option Nat
  | _, [] => none
  | 0, _ :: _ => some 0
  | n + 1, c :: rest => (byteOf? n rest).map (c.utf8Size + ·)

/-- The byte each character starts at, and the length of the text after them. -/
def byteOffsets (text : Text) : Array Nat :=
  let (offsets, stop) :=
    text.foldl (fun (held, n) c => (held.push n, n + c.utf8Size)) ((#[] : Array Nat), 0)
  offsets.push stop

end ApiLint.Text
