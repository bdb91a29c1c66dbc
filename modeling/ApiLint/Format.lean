import ApiLint.Format.Mail
import ApiLint.Format.Time
import ApiLint.Pattern

/-!
# Formats of strings

A schema may ask for a string of a named format. Each name has its predicate; the later
names are known from some edition of the schema language on, and a name that is not known
asks for nothing.
-/

namespace ApiLint.Format

/-- Whether every tilde is followed by 0 or 1. -/
def hasPointerEscapes : Text → Bool
  | [] => true
  | ['~'] => false
  | '~' :: c :: rest => (c == '0' || c == '1') && hasPointerEscapes rest
  | _ :: rest => hasPointerEscapes rest

/-- Whether the text is empty or a row of steps, each after a slash. -/
def isPointer (text : Text) : Bool :=
  match text with
  | [] => true
  | '/' :: _ => hasPointerEscapes text
  | _ => false

/-- Whether the text is a number of levels up and then a pointer or a hash. -/
def isRelativePointer (text : Text) : Bool :=
  let digits := text.takeWhile Numeral.isDecimal
  let rest := text.dropWhile Numeral.isDecimal
  !digits.isEmpty && (digits.length == 1 || digits.head? != some '0')
    && (rest == ['#'] || isPointer rest)

/-- Whether the text inside the braces of a template is a list of variables. -/
def isExpression (text : Text) : Bool :=
  let names := match text with
    | c :: rest =>
      if ['+', '#', '.', '/', ';', '?', '&', '=', ',', '!', '@', '|'].contains c then rest else text
    | [] => text
  (Text.split ',' names).all fun item =>
    let name := item.takeWhile fun c => c != ':' && c != '*'
    !name.isEmpty
      && name.all (fun c => c.isAlphanum || c == '_' || c == '.' || c == '%')
      && (match item.dropWhile fun c => c != ':' && c != '*' with
        | [] => true
        | ['*'] => true
        | ':' :: digits => 1 ≤ digits.length && digits.length ≤ 4 && digits.all Numeral.isDecimal
        | _ => false)

/-- Whether the text is a template: allowed characters, and expressions in braces. -/
def isTemplateFrom (text : Text) : Nat → Bool
  | 0 => true
  | fuel + 1 =>
    match text with
    | [] => true
    | '{' :: rest =>
      match rest.dropWhile (· != '}') with
      | '}' :: after => isExpression (rest.takeWhile (· != '}')) && isTemplateFrom after fuel
      | _ => false
    | c :: rest =>
      !(c.toNat ≤ 0x20 || c.toNat == 0x7F
          || ['"', '\'', '%', '<', '>', '\\', '^', Char.ofNat 0x60, '|', '}'].contains c)
        && isTemplateFrom rest fuel

def isTemplate (text : Text) : Bool := isTemplateFrom text (text.length + 1)

/-- The predicate of a format that is known from the given edition on. -/
def check? (edition : Nat) (name : String) : Option (Text → Bool) :=
  let since (first : Nat) (test : Text → Bool) : Option (Text → Bool) :=
    if first ≤ edition then some test else none
  match name with
  | "date" => some isDate
  | "date-time" => some isDateTime
  | "time" => some isTime
  | "email" => some (isMail false)
  | "idn-email" => some (isMail true)
  | "hostname" => some isHostName
  | "idn-hostname" => since 7 isInternationalHostName
  | "ipv4" => some Uri.isAddress4
  | "ipv6" => some Uri.isAddress6
  | "uri" => some (Uri.isIdentifier false)
  | "uri-reference" => since 6 (Uri.isReference false)
  | "uri-template" => since 6 isTemplate
  | "iri" => since 7 (Uri.isIdentifier true)
  | "iri-reference" => since 7 (Uri.isReference true)
  | "json-pointer" => since 6 isPointer
  | "relative-json-pointer" => since 7 isRelativePointer
  | "regex" => some fun text => (Pattern.ofText? text).isSome
  | _ => none

end ApiLint.Format
