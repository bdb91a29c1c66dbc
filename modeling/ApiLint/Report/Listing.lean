import ApiLint.Json.Printer
import ApiLint.Report
import ApiLint.Text.Quoted

/-!
# Diagnostics as data

Diagnostics are written as a JSON list, each an object whose members stand in a fixed order,
and for debugging as a nested record.

JSON has only texts. A list with a file whose name is none breaks off before that name; what
stands before it is written all the same.
-/

namespace ApiLint

def jsonMember (name value : String) : String := Json.quote name ++ ": " ++ value

/-- A JSON object of some members, in this order, that stands at `level`. -/
def jsonObject (level : Nat) (members : List String) : String :=
  Json.bracketed level "\x7b" "\x7d" members

/-- A position as a JSON object that stands at `level`. -/
def Position.listing (level : Nat) (position : Position) : String :=
  jsonObject level
    [jsonMember "line" (toString position.line), jsonMember "column" (toString position.column)]

/-- The members that stand before the name of the file. -/
def Diagnostic.leadingMembers (diagnostic : Diagnostic) : List String :=
  [jsonMember "severity" (Json.quote Diagnostic.severity),
    jsonMember "message" (Json.quote diagnostic.message)]

/-- A diagnostic as a JSON object that stands at `level`. -/
def Diagnostic.listing (level : Nat) (diagnostic : Diagnostic) : String :=
  let range := jsonObject (level + 1)
    [jsonMember "start" (diagnostic.range.start.listing (level + 2)),
      jsonMember "end" (diagnostic.range.stop.listing (level + 2))]
  jsonObject level (diagnostic.leadingMembers ++
    [jsonMember "file_path" (Json.quote diagnostic.filePath.shown), jsonMember "range" range])

def Diagnostic.listingOf (diagnostics : List Diagnostic) : String :=
  Json.bracketed 0 "[" "]" (diagnostics.map (Diagnostic.listing 1))

/-- Whether a diagnostic can be written as JSON: the name of its file has to be a text. -/
def Diagnostic.isListable (diagnostic : Diagnostic) : Bool := diagnostic.filePath.isText

/-- A diagnostic as a JSON object that stands at `level`, up to the name of the file. -/
def Diagnostic.listingFront (level : Nat) (diagnostic : Diagnostic) : String :=
  Json.unclosed level "\x7b" (diagnostic.leadingMembers ++ [jsonMember "file_path" ""])

/-- A list of diagnostics up to the first name that is no text. -/
def Diagnostic.brokenListing (diagnostics : List Diagnostic) : String :=
  let broken? := (diagnostics.dropWhile isListable).head?
  Json.unclosed 0 "[" ((diagnostics.takeWhile isListable).map (listing 1) ++
    (broken?.map (listingFront 1)).toList)

/-- The name of a record before its fields, one a line, each four blanks deeper than the
record, which stands at `level`. -/
def record (level : Nat) (name : String) (fields : List (String × String)) : String :=
  let margin := String.ofList (List.replicate (4 * level) ' ')
  let lines := fields.map fun (field, value) => margin ++ "    " ++ field ++ ": " ++ value ++ ",\n"
  name ++ " \x7b\n" ++ String.join lines ++ margin ++ "\x7d"

def Position.record (level : Nat) (position : Position) : String :=
  ApiLint.record level "Position"
    [("line", toString position.line), ("column", toString position.column)]

/-- A character of a name between double quotes: single quotes are escaped as well. -/
def quotedNameChar (c : Char) : Text :=
  if c = '\'' then ['\\', c] else Text.quotedChar c

/-- A name between double quotes, with the numbers of bytes that belong to no character. -/
def FileName.quoted : FileName → Text
  | .text path => '"' :: path.toList.flatMap quotedNameChar ++ ['"']
  | .bytes path _ =>
    let quotedPiece (piece : List UInt8) : Text := match Utf8.char? piece with
      | some c => quotedNameChar c
      | none => piece.flatMap fun byte =>
        '\\' :: 'x' :: (Json.hexByte byte.toNat).map Char.toUpper
    '"' :: (Utf8.pieces [] path.toList).flatMap quotedPiece ++ ['"']

def Diagnostic.record (diagnostic : Diagnostic) : String :=
  let range := ApiLint.record 1 "Range"
    [("start", diagnostic.range.start.record 2), ("end", diagnostic.range.stop.record 2)]
  ApiLint.record 0 "Diagnostic"
    [("severity", Diagnostic.severity),
      ("message", String.ofList (Text.quoted diagnostic.message.toList)),
      ("file_path", String.ofList diagnostic.filePath.quoted), ("range", range)]

end ApiLint
