import ApiLint.Uri

/-!
# Host names and mail addresses

A host name is a row of labels between points. A mail address has a local part, bare or
in quotes, and after the at sign a host name or an address in brackets. A display name
may stand before an address in angles.
-/

namespace ApiLint.Format

/-- Whether the text may be a label: letters, digits and inner hyphens, at most 63. -/
def isLabel (label : Text) : Bool :=
  1 ≤ label.length && label.length ≤ 63 && label.head? != some '-' && label.getLast? != some '-'
    && label.all fun c => c.isAlphanum || c == '-'

def isHostName (text : Text) : Bool := text.length ≤ 253 && (text.split '.').all isLabel

/-- Whether the text is a host name whose labels may use any alphabet. -/
def isInternationalHostName (text : Text) : Bool :=
  isHostName (text.map fun c => if 0xA0 ≤ c.toNat then 'a' else c)

/-- Whether the character may stand in a bare local part. -/
def isAtomChar (c : Char) : Bool :=
  c.isAlphanum || 0x80 ≤ c.toNat
    || ['!', '#', '$', '%', '&', '\'', '*', '+', '-', '/', '=', '?', '^', '_', Char.ofNat 0x60, '{',
      '|', '}', '~'].contains c

/-- Whether the text is a row of atoms between points. -/
def isDotAtom (text : Text) : Bool :=
  (text.split '.').all fun atom => !atom.isEmpty && atom.all isAtomChar

/-- Whether the text may stand between the quotes of a local part. -/
def isQuotedContent : Text → Bool
  | [] => true
  | ['\\'] => false
  | '\\' :: c :: rest => (c == ' ' || c == '\t' || 0x21 ≤ c.toNat) && isQuotedContent rest
  | c :: rest => (c == ' ' || c == '\t' || (0x21 ≤ c.toNat && c != '"')) && isQuotedContent rest

def isLocalPart (text : Text) : Bool :=
  1 ≤ text.length && text.length ≤ 64
    && (match text with
      | '"' :: rest =>
        2 ≤ text.length && rest.getLast? == some '"' && isQuotedContent rest.dropLast
      | _ => isDotAtom text)

/-- What stands in angles after a display name, or else the text itself. -/
def withoutDisplayName? (text : Text) : Option Text :=
  match text.reverse with
  | '>' :: reversed =>
    let address := (reversed.takeWhile (· != '<')).reverse
    match reversed.dropWhile (· != '<') with
    | '<' :: ' ' :: _ => some address
    | _ => some text
  | _ => some text

def isDomain (international : Bool) (domain : Text) : Bool :=
  match domain with
  | '[' :: rest =>
    if rest.getLast? == some ']' then
      let address := rest.dropLast
      match Text.after? "IPv6:".toList address with
      | some address => Uri.isAddress6 address
      | none => Uri.isAddress4 address
    else false
  | _ => if international then isInternationalHostName domain else isHostName domain

def isMail (international : Bool) (text : Text) : Bool :=
  match withoutDisplayName? text with
  | none => false
  | some address =>
    let domain := (address.reverse.takeWhile (· != '@')).reverse
    match address.reverse.dropWhile (· != '@') with
    | '@' :: reversed => isLocalPart reversed.reverse && isDomain international domain
    | _ => false

end ApiLint.Format
