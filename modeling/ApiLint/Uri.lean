import ApiLint.Path.Numeral
import ApiLint.Text.Lines

/-!
# Uniform resource identifiers

A reference is split into five parts, each of which may be missing except the path. The
split always succeeds; `Uri.isValid` says whether every part is made of characters that
may stand there. `Uri.resolve` is the reference seen from a base.

An identifier with an international alphabet allows further characters beyond ASCII.
-/

namespace ApiLint

/-- The parts of a reference. -/
structure Uri where
  scheme? : Option Text
  authority? : Option Text
  path : Text
  query? : Option Text
  fragment? : Option Text
  deriving DecidableEq, Repr, Inhabited

namespace Uri

/-- The text before the first `mark`, and what follows it if there is one. -/
def cutAt (mark : Char) (text : Text) : Text × Option Text :=
  (text.takeWhile (· != mark),
    match text.dropWhile (· != mark) with
    | _ :: rest => some rest
    | [] => none)

/-- Whether the text may be a scheme: a letter, then letters, digits and three marks. -/
def isScheme : Text → Bool
  | [] => false
  | c :: rest => c.isAlpha && rest.all fun d => d.isAlphanum || d == '+' || d == '-' || d == '.'

/-- The parts of a reference. -/
def ofText (text : Text) : Uri :=
  let (rest, fragment?) := cutAt '#' text
  let (rest, query?) := cutAt '?' rest
  let (scheme?, rest) := match cutAt ':' rest with
    | (before, some after) => if isScheme before then (some before, after) else (none, rest)
    | (_, none) => (none, rest)
  match rest with
  | '/' :: '/' :: more =>
    ⟨scheme?, some (more.takeWhile (· != '/')), more.dropWhile (· != '/'), query?, fragment?⟩
  | _ => ⟨scheme?, none, rest, query?, fragment?⟩

def toText (uri : Uri) : Text :=
  let scheme := match uri.scheme? with
    | some scheme => scheme ++ [':']
    | none => []
  let authority := match uri.authority? with
    | some authority => '/' :: '/' :: authority
    | none => []
  let query := match uri.query? with
    | some query => '?' :: query
    | none => []
  let fragment := match uri.fragment? with
    | some fragment => '#' :: fragment
    | none => []
  scheme ++ authority ++ uri.path ++ query ++ fragment

/-- The segments of a path without its dot segments; those kept so far in reverse. -/
def dropDots (kept : List Text) : List Text → List Text
  | [] => kept.reverse
  | [last] =>
    if last = ['.'] then ([] :: kept).reverse
    else if last = ['.', '.'] then ([] :: kept.drop 1).reverse
    else (last :: kept).reverse
  | segment :: rest =>
    if segment = ['.'] then dropDots kept rest
    else if segment = ['.', '.'] then dropDots (if kept.length ≤ 1 then kept else kept.drop 1) rest
    else dropDots (segment :: kept) rest

/-- A path with its dot segments taken out. -/
def plainPath (path : Text) : Text := Text.join '/' (dropDots [] (path.split '/'))

def mergePath (base : Uri) (path : Text) : Text :=
  if base.authority?.isSome && base.path.isEmpty then '/' :: path
  else
    let before := (base.path.reverse.dropWhile (· != '/')).reverse
    before ++ path

def resolve (base reference : Uri) : Uri :=
  if reference.scheme?.isSome then { reference with path := plainPath reference.path }
  else if reference.authority?.isSome then
    { reference with scheme? := base.scheme?, path := plainPath reference.path }
  else if reference.path.isEmpty then
    { base with query? := reference.query?.or base.query?, fragment? := reference.fragment? }
  else
    let path := match reference.path with
      | '/' :: _ => reference.path
      | path => mergePath base path
    ⟨base.scheme?, base.authority?, plainPath path, reference.query?, reference.fragment?⟩

/-- Whether the character needs no escape anywhere. -/
def isUnreserved (c : Char) : Bool := c.isAlphanum || c == '-' || c == '.' || c == '_' || c == '~'

/-- Whether the character separates parts of a part. -/
def isSubDelimiter (c : Char) : Bool :=
  ['!', '$', '&', '\'', '(', ')', '*', '+', ',', ';', '='].contains c

def isInternational (c : Char) : Bool :=
  let n := c.toNat
  (0xA0 ≤ n && n ≤ 0xD7FF) || (0xF900 ≤ n && n ≤ 0xFDCF) || (0xFDF0 ≤ n && n ≤ 0xFFEF)
    || (0x10000 ≤ n && n ≤ 0xEFFFD && n % 0x10000 ≤ 0xFFFD)

/-- Whether a part is made of allowed characters and escapes of two hexadecimal digits. -/
def isMadeOf (international : Bool) (marks : List Char) : Text → Bool
  | [] => true
  | ['%'] => false
  | ['%', _] => false
  | '%' :: a :: b :: rest =>
    (Numeral.digitValue? 16 a).isSome && (Numeral.digitValue? 16 b).isSome
      && isMadeOf international marks rest
  | c :: rest =>
    (isUnreserved c || isSubDelimiter c || marks.contains c || (international && isInternational c))
      && isMadeOf international marks rest

/-- Whether the text is one of the four numbers of an address: no needless zero, and
below 256. -/
def isOctet (text : Text) : Bool :=
  !text.isEmpty && text.length ≤ 3 && text.all Numeral.isDecimal
    && (text.length == 1 || text.head? != some '0') && Numeral.ofDigits text < 256

def isAddress4 (text : Text) : Bool :=
  let parts := text.split '.'
  parts.length == 4 && parts.all isOctet

/-- Whether the text is one to four hexadecimal digits. -/
def isGroup (text : Text) : Bool :=
  1 ≤ text.length && text.length ≤ 4 && text.all fun c => (Numeral.digitValue? 16 c).isSome

/-- How many groups of four digits a row of groups makes, where the last group may be an
address of four numbers; none if it is malformed. -/
def groupCount? (lastMayBeAddress : Bool) (groups : List Text) : Option Nat :=
  match groups.reverse with
  | [] => some 0
  | last :: before =>
    if !before.all isGroup then none
    else if isGroup last then some groups.length
    else if lastMayBeAddress && isAddress4 last then some (groups.length + 1)
    else none

/-- The pieces of a text around the first two colons in a row, if it has them. -/
def cutAtGap : Text → Option (Text × Text)
  | ':' :: ':' :: rest => some ([], rest)
  | c :: rest => (cutAtGap rest).map fun (before, after) => (c :: before, after)
  | [] => none

/-- The groups between colons; none in an empty text. -/
def groupsOf (text : Text) : List Text := if text.isEmpty then [] else text.split ':'

/-- Whether the text is an address of eight groups, a gap standing for missing ones. -/
def isAddress6 (text : Text) : Bool :=
  match cutAtGap text with
  | none => groupCount? true (groupsOf text) == some 8
  | some (before, after) =>
    match groupCount? false (groupsOf before), groupCount? true (groupsOf after) with
    | some m, some n => m + n ≤ 7
    | _, _ => false

/-- Whether the text is an address of a later version, such as `v1.x`. -/
def isAddressLater (text : Text) : Bool :=
  match text with
  | v :: rest =>
    let digits := rest.takeWhile fun c => (Numeral.digitValue? 16 c).isSome
    match rest.dropWhile fun c => (Numeral.digitValue? 16 c).isSome with
    | '.' :: more =>
      (v == 'v' || v == 'V') && !digits.isEmpty && !more.isEmpty
        && more.all fun c => isUnreserved c || isSubDelimiter c || c == ':'
    | _ => false
  | [] => false

def isHostPort (international : Bool) (text : Text) : Bool :=
  match text with
  | '[' :: rest =>
    let address := rest.takeWhile (· != ']')
    match rest.dropWhile (· != ']') with
    | ']' :: after =>
      (isAddress6 address || isAddressLater address)
        && (match after with
          | [] => true
          | ':' :: port => port.all Numeral.isDecimal
          | _ => false)
    | _ => false
  | _ =>
    let (host, port?) := cutAt ':' text
    isMadeOf international [] host && (port?.getD []).all Numeral.isDecimal

def isAuthority (international : Bool) (text : Text) : Bool :=
  match cutAt '@' text with
  | (user, some host) => isMadeOf international [':'] user && isHostPort international host
  | (host, none) => isHostPort international host

/-- Whether all parts are made of characters that may stand there. A path without
a scheme or authority before it has no colon in its first segment. -/
def isValid (international : Bool) (uri : Uri) : Bool :=
  let pathOk := isMadeOf international [':', '@', '/'] uri.path
  let startOk :=
    uri.scheme?.isSome || uri.authority?.isSome
      || !(uri.path.takeWhile (· != '/')).contains ':'
  let authorityOk := match uri.authority? with
    | some authority => isAuthority international authority
    | none => true
  pathOk && startOk && authorityOk
    && isMadeOf international [':', '@', '/', '?'] (uri.query?.getD [])
    && isMadeOf international [':', '@', '/', '?'] (uri.fragment?.getD [])

def isReference (international : Bool) (text : Text) : Bool := (ofText text).isValid international

def isIdentifier (international : Bool) (text : Text) : Bool :=
  let uri := ofText text
  uri.scheme?.isSome && uri.isValid international

end Uri

end ApiLint
