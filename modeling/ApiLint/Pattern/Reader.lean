import ApiLint.Path.Numeral
import ApiLint.Pattern.Node

/-!
# Reading patterns

Patterns come in two notations. The plain one has groups, alternatives, repetitions and
character classes, with classes inside classes and operations on them. The rich one adds
looking around, references to groups, and matches that are not given up again. A pattern
is read in the plain notation; one that looks around is told apart from one that is
malformed, so that it can be read in the rich notation instead.

Flags hold up to the end of their group.
-/

namespace ApiLint.Pattern

/-- How letters, points and line ends are taken. -/
structure Flags where
  anyCase : Bool
  lines : Bool
  dotAll : Bool
  spaced : Bool
  deriving Repr, Inhabited

/-- Why a pattern cannot be read: it is malformed, or it looks around. -/
inductive Refusal where
  | malformed
  | looksAround
  deriving DecidableEq, Repr, Inhabited

/-- What is left to read, the flags in force, and the groups so far. -/
structure State where
  rest : Text
  flags : Flags
  groups : Nat
  names : List (Text × Nat)
  rich : Bool
  deriving Inhabited

namespace Reader

abbrev Step (α : Type) := Except Refusal (α × State)

def State.on (state : State) (rest : Text) : State := { state with rest := rest }

/-- The digits in front of a text as a number, and what follows. -/
def number? (text : Text) : Option (Nat × Text) :=
  let digits := text.takeWhile Numeral.isDecimal
  if digits.isEmpty then none else some (Numeral.ofDigits digits, text.dropWhile Numeral.isDecimal)

/-- The bounds of a repetition after its opening brace, and what follows the closing one. -/
def bounds? (text : Text) : Option ((Nat × Option Nat) × Text) :=
  match number? text with
  | some (least, '}' :: rest) => some ((least, some least), rest)
  | some (least, ',' :: '}' :: rest) => some ((least, none), rest)
  | some (least, ',' :: rest) =>
    match number? rest with
    | some (most, '}' :: rest) => if least ≤ most then some ((least, some most), rest) else none
    | _ => none
  | none =>
    match text with
    | ',' :: rest =>
      match number? rest with
      | some (most, '}' :: rest) => some ((0, some most), rest)
      | _ => none
    | _ => none
  | _ => none

/-- A character by its number in hexadecimal digits: `width` of them, or any in braces. -/
def hexChar? (width : Nat) (text : Text) : Option (Char × Text) :=
  let (digits, rest) := match text with
    | '{' :: more => (more.takeWhile (· != '}'), (more.dropWhile (· != '}')).drop 1)
    | _ => (text.take width, text.drop width)
  let value? := digits.foldl
    (fun sum? c => do return (← sum?) * 16 + (← Numeral.digitValue? 16 c)) (some 0)
  match value? with
  | some n =>
    if !digits.isEmpty && (text.head? == some '{' || digits.length == width) && n.isValidChar then
      some (Char.ofNat n, rest)
    else none
  | none => none

/-- The Unicode properties that can be asked for by name. -/
def propertySet? (name : Text) : Option CharSet :=
  let letters := name.filter fun c => c != '_' && c != ' ' && c != '-'
  let key := String.ofList (letters.map Char.toLower)
  let word : CharSet := .shorthand .word
  let digit : CharSet := .shorthand .digit
  let underscore : CharSet := .char '_'
  let letter : CharSet := .and word (.not (.or digit underscore))
  if ["l", "letter", "alphabetic", "alpha"].contains key then some letter
  else if ["lu", "uppercaseletter", "uppercase", "upper"].contains key then
    some (.or (.range 'A' 'Z') (.range 'À' 'Þ'))
  else if ["ll", "lowercaseletter", "lowercase", "lower"].contains key then
    some (.or (.range 'a' 'z') (.range 'ß' 'ÿ'))
  else if ["n", "number", "nd", "decimalnumber", "digit"].contains key then some digit
  else if ["whitespace", "space", "z", "separator", "zs", "spaceseparator"].contains key then
    some (.shorthand .space)
  else if key == "ascii" then some (.range (Char.ofNat 0) (Char.ofNat 127))
  else if key == "any" then some .all
  else if key == "word" || key == "w" then some word
  else none

/-- A property after its `p`: one letter, or a name in braces. -/
def property? (text : Text) : Option (CharSet × Text) :=
  match text with
  | '{' :: more =>
    let name := more.takeWhile (· != '}')
    let rest := more.dropWhile (· != '}')
    match rest, name with
    | '}' :: rest, '^' :: name => (propertySet? name).map fun set => (.not set, rest)
    | '}' :: rest, name => (propertySet? name).map fun set => (set, rest)
    | _, _ => none
  | c :: rest => (propertySet? [c]).map fun set => (set, rest)
  | [] => none

/-- The shorthand class that a letter names, in the small. -/
def shorthand? (c : Char) : Option Shorthand :=
  if c == 'd' then some .digit else if c == 'w' then some .word else if c == 's' then some .space
  else none

def controlLetter? (c : Char) : Option Char :=
  if c == 'f' then some (Char.ofNat 12) else if c == 't' then some '\t'
  else if c == 'n' then some '\n' else if c == 'r' then some '\r'
  else if c == 'v' then some (Char.ofNat 11) else none

def escapesItself (c : Char) : Bool := c.toNat < 0x80 && !c.isAlphanum && c != '<' && c != '>'

/-- A set written as an escape, after its backslash. -/
def escapedSet? (text : Text) : Option (CharSet × Text) :=
  match text with
  | [] => none
  | c :: rest =>
    match shorthand? c, shorthand? c.toLower with
    | some kind, _ => some (.shorthand kind, rest)
    | none, some kind => some (.not (.shorthand kind), rest)
    | none, none =>
      if c == 'p' then property? rest
      else if c == 'P' then (property? rest).map fun (set, rest) => (.not set, rest)
      else if c == 'x' then (hexChar? 2 rest).map fun (c, rest) => (.char c, rest)
      else if c == 'u' then (hexChar? 4 rest).map fun (c, rest) => (.char c, rest)
      else if c == 'U' then (hexChar? 8 rest).map fun (c, rest) => (.char c, rest)
      else match controlLetter? c with
        | some control => some (.char control, rest)
        | none => if escapesItself c then some (.char c, rest) else none

/-- The classes with a name between brackets and colons. -/
def namedSet? (name : String) : Option CharSet :=
  let alpha : CharSet := .or (.range 'a' 'z') (.range 'A' 'Z')
  let digit : CharSet := .range '0' '9'
  match name with
  | "alpha" => some alpha
  | "alnum" => some (.or alpha digit)
  | "digit" => some digit
  | "lower" => some (.range 'a' 'z')
  | "upper" => some (.range 'A' 'Z')
  | "word" => some (.or (.or alpha digit) (.char '_'))
  | "xdigit" => some (.or digit (.or (.range 'a' 'f') (.range 'A' 'F')))
  | "space" => some (.or (.char ' ') (.range (Char.ofNat 9) (Char.ofNat 13)))
  | "blank" => some (.or (.char ' ') (.char '\t'))
  | "ascii" => some (.range (Char.ofNat 0) (Char.ofNat 127))
  | "cntrl" => some (.or (.range (Char.ofNat 0) (Char.ofNat 31)) (.char (Char.ofNat 127)))
  | "graph" => some (.range '!' '~')
  | "print" => some (.range ' ' '~')
  | "punct" => some (.and (.range '!' '~') (.not (.or alpha digit)))
  | _ => none

/-- A named class such as `[:alpha:]` at its bracket. -/
def named? (text : Text) : Option (CharSet × Text) :=
  match text with
  | '[' :: ':' :: rest =>
    let (negated, rest) := match rest with
      | '^' :: more => (true, more)
      | _ => (false, rest)
    let name := rest.takeWhile Char.isAlpha
    match rest.dropWhile Char.isAlpha with
    | ':' :: ']' :: after =>
      (namedSet? (String.ofList name)).map fun set => (if negated then .not set else set, after)
    | _ => none
  | _ => none

/-- One character of a class, escaped or not, that may bound a range. -/
def classChar? (text : Text) : Option (Char × Text) :=
  match text with
  | '\\' :: rest =>
    match escapedSet? rest with
    | some (.char c, rest) => some (c, rest)
    | _ => none
  | c :: rest => if c == '[' then none else some (c, rest)
  | [] => none

mutual

/-- The items of a class from here on, up to its closing bracket; `first` where a closing
bracket or a hyphen would stand for itself. -/
def classItems (spaced first : Bool) (held : CharSet) (text : Text) (fuel : Nat) :
    Option (CharSet × Text) :=
  match fuel with
  | 0 => none
  | fuel + 1 =>
    match text with
    | [] => none
    | ']' :: rest =>
      if first then classRange spaced held ']' rest fuel else some (held, rest)
    | '&' :: '&' :: rest =>
      (classItems spaced false .empty rest fuel).map fun (set, rest) => (.and held set, rest)
    | '-' :: '-' :: rest =>
      if first then classRange spaced held '-' ('-' :: rest) fuel
      else
        (classItems spaced false .empty rest fuel).map fun (set, rest) =>
          (.and held (.not set), rest)
    | '~' :: '~' :: rest =>
      (classItems spaced false .empty rest fuel).map fun (set, rest) =>
        (.or (.and held (.not set)) (.and set (.not held)), rest)
    | '[' :: rest =>
      match named? ('[' :: rest) with
      | some (set, rest) => classItems spaced false (.or held set) rest fuel
      | none =>
        match charClass spaced rest fuel with
        | some (set, rest) => classItems spaced false (.or held set) rest fuel
        | none => none
    | '\\' :: rest =>
      match escapedSet? rest with
      | some (.char c, rest) => classRange spaced held c rest fuel
      | some (set, rest) => classItems spaced false (.or held set) rest fuel
      | none => none
    | c :: rest =>
      if spaced && isBlank c then classItems spaced first held rest fuel
      else classRange spaced held c rest fuel
termination_by structural fuel

/-- An item of a class that starts with a character, perhaps a range. -/
def classRange (spaced : Bool) (held : CharSet) (c : Char) (text : Text) (fuel : Nat) :
    Option (CharSet × Text) :=
  match fuel with
  | 0 => none
  | fuel + 1 =>
    match text with
    | '-' :: d :: rest =>
      if d == ']' || d == '-' then classItems spaced false (.or held (.char c)) text fuel
      else match classChar? (d :: rest) with
        | some (last, rest) =>
          if c ≤ last then classItems spaced false (.or held (.range c last)) rest fuel else none
        | none => none
    | _ => classItems spaced false (.or held (.char c)) text fuel
termination_by structural fuel

/-- A class after its opening bracket. -/
def charClass (spaced : Bool) (text : Text) (fuel : Nat) : Option (CharSet × Text) :=
  match fuel with
  | 0 => none
  | fuel + 1 =>
    match text with
    | '^' :: rest =>
      (classItems spaced true .empty rest fuel).map fun (set, rest) => (.not set, rest)
    | _ => classItems spaced true .empty text fuel
termination_by structural fuel

end

/-- The flags that letters switch on, and after a hyphen off; what follows them. -/
def flags? (on : Bool) (flags : Flags) (text : Text) : Option (Flags × Text) :=
  match text with
  | 'i' :: rest => flags? on { flags with anyCase := on } rest
  | 'm' :: rest => flags? on { flags with lines := on } rest
  | 's' :: rest => flags? on { flags with dotAll := on } rest
  | 'x' :: rest => flags? on { flags with spaced := on } rest
  | 'u' :: rest => flags? on flags rest
  | 'U' :: rest => flags? on flags rest
  | '-' :: rest => if on then flags? false flags rest else none
  | _ => some (flags, text)

def groupName? (text : Text) : Option (Text × Text) :=
  let name := text.takeWhile (· != '>')
  match text.dropWhile (· != '>'), name with
  | '>' :: rest, c :: _ =>
    if isWordChar c && !c.isDigit
        && name.all (fun c => isWordChar c || c == '.' || c == '[' || c == ']')
    then some (name, rest) else none
  | _, _ => none

def literal (flags : Flags) (c : Char) : Node := .one (.char c) flags.anyCase

/-- A piece written as an escape, after its backslash. -/
def escape (state : State) (text : Text) : Step Node :=
  match text with
  | [] => .error .malformed
  | c :: rest =>
    if c == 'b' then .ok (.wordEdge false, State.on state rest)
    else if c == 'B' then .ok (.wordEdge true, State.on state rest)
    else if c == 'A' then .ok (.textStart, State.on state rest)
    else if c == 'z' then .ok (.textEnd, State.on state rest)
    else if c == 'c' then
      match rest with
      | letter :: rest =>
        if letter.isAlpha then
          .ok (literal state.flags (Char.ofNat (letter.toNat % 32)), State.on state rest)
        else .error .malformed
      | [] => .error .malformed
    else if Numeral.isDecimal c then
      match if state.rich then number? text else none with
      | some (index, rest) =>
        if 0 < index ∧ index ≤ state.groups then .ok (.again index, State.on state rest)
        else .error .malformed
      | none => .error .malformed
    else if state.rich && c == 'k' then
      match rest with
      | '<' :: rest =>
        match groupName? rest with
        | some (name, rest) =>
          match state.names.find? fun pair => pair.1 = name with
          | some (_, index) => .ok (.again index, State.on state rest)
          | none => .error .malformed
        | none => .error .malformed
      | _ => .error .malformed
    else
      match escapedSet? text with
      | some (set, rest) => .ok (.one set state.flags.anyCase, State.on state rest)
      | none => .error .malformed

/-- What may open a group after its parenthesis. -/
inductive Opening where
  | group (name? : Option Text)
  | plain (flags : Flags)
  | look (ahead negated : Bool)
  | atomic
  | flags (flags : Flags)

/-- What opens a group, after its parenthesis, and what follows. -/
def opening (state : State) : Except Refusal (Opening × Text) :=
  let look (ahead negated : Bool) (rest : Text) : Except Refusal (Opening × Text) :=
    if state.rich then .ok (.look ahead negated, rest) else .error .looksAround
  match state.rest with
  | '?' :: '=' :: rest => look true false rest
  | '?' :: '!' :: rest => look true true rest
  | '?' :: '<' :: '=' :: rest => look false false rest
  | '?' :: '<' :: '!' :: rest => look false true rest
  | '?' :: '>' :: rest => if state.rich then .ok (.atomic, rest) else .error .malformed
  | '?' :: 'P' :: '<' :: rest => named rest
  | '?' :: '<' :: rest => named rest
  | '?' :: rest =>
    match flags? true state.flags rest with
    | some (flags, ':' :: rest) => .ok (.plain flags, rest)
    | some (flags, ')' :: after) =>
      if rest.head? == some ')' then .error .malformed else .ok (.flags flags, after)
    | _ => .error .malformed
  | rest => .ok (.group none, rest)
where
  /-- A group with a name. -/
  named (rest : Text) : Except Refusal (Opening × Text) :=
    match groupName? rest with
    | some (name, rest) =>
      if state.names.any fun pair => pair.1 = name then .error .malformed
      else .ok (.group (some name), rest)
    | none => .error .malformed

def repetition (state : State) (piece : Node) : Except Refusal (Option (Node × State)) :=
  let found? : Except Refusal (Option ((Nat × Option Nat) × Text)) := match state.rest with
    | '*' :: rest => .ok (some ((0, none), rest))
    | '+' :: rest => .ok (some ((1, none), rest))
    | '?' :: rest => .ok (some ((0, some 1), rest))
    | '{' :: rest =>
      match bounds? rest with
      | some found => .ok (some found)
      | none => .error .malformed
    | _ => .ok none
  match found? with
  | .error refusal => .error refusal
  | .ok none => .ok none
  | .ok (some ((least, most?), rest)) =>
    let node := Node.repeated piece least most?
    match rest with
    | '?' :: rest => .ok (some (node, State.on state rest))
    | '+' :: rest =>
      if state.rich then .ok (some (.atomic node, State.on state rest))
      else .ok (some (node, State.on state ('+' :: rest)))
    | rest => .ok (some (node, State.on state rest))

def repetitions (state : State) (piece : Node) : Nat → Step Node
  | 0 => .ok (piece, state)
  | fuel + 1 =>
    match repetition state piece with
    | .error refusal => .error refusal
    | .ok none => .ok (piece, state)
    | .ok (some (node, state)) => repetitions state node fuel

mutual

/-- Alternatives from here on, up to the end of the group or the pattern. -/
def alternatives (state : State) (fuel : Nat) : Except Refusal (Node × State) :=
  match fuel with
  | 0 => .error .malformed
  | fuel + 1 => do
    let (first, state) ← pieces state .empty fuel
    match state.rest with
    | '|' :: rest =>
      let (others, state) ← alternatives (State.on state rest) fuel
      return (.alt first others, state)
    | _ => return (first, state)
termination_by structural fuel

/-- Pieces from here on, up to the end of the alternative; what was read before them. -/
def pieces (state : State) (held : Node) (fuel : Nat) : Except Refusal (Node × State) :=
  match fuel with
  | 0 => .error .malformed
  | fuel + 1 => do
    match state.rest with
    | [] => return (held, state)
    | '|' :: _ => return (held, state)
    | ')' :: _ => return (held, state)
    | '(' :: rest =>
      let (kind, rest) ← opening (State.on state rest)
      match kind with
      | .flags flags => pieces { state with rest := rest, flags := flags } held fuel
      | kind =>
        let (piece, state) ← group kind (State.on state rest) fuel
        let (piece, state) ← repetitions state piece state.rest.length
        pieces state (.seq held piece) fuel
    | '*' :: _ => .error .malformed
    | '+' :: _ => .error .malformed
    | '?' :: _ => .error .malformed
    | '{' :: _ => .error .malformed
    | c :: rest =>
      if state.flags.spaced && isBlank c then pieces (State.on state rest) held fuel
      else if state.flags.spaced && c == '#' then
        pieces (State.on state (rest.dropWhile (· != '\n'))) held fuel
      else
        let (piece, state) ←
          if c == '\\' then escape state rest
          else if c == '[' then
            match charClass state.flags.spaced rest (3 * rest.length + 3) with
            | some (set, rest) => .ok (.one set state.flags.anyCase, State.on state rest)
            | none => .error .malformed
          else if c == '.' then
            .ok (.one (if state.flags.dotAll then .all else .not (.char '\n')) false,
              State.on state rest)
          else if c == '^' then
            .ok (if state.flags.lines then .lineStart else .textStart, State.on state rest)
          else if c == '$' then
            .ok (if state.flags.lines then .lineEnd else .textEnd, State.on state rest)
          else .ok (literal state.flags c, State.on state rest)
        let (piece, state) ← repetitions state piece state.rest.length
        pieces state (.seq held piece) fuel
termination_by structural fuel

/-- The body of a group and its closing parenthesis. -/
def group (kind : Opening) (state : State) (fuel : Nat) : Except Refusal (Node × State) :=
  match fuel with
  | 0 => .error .malformed
  | fuel + 1 => do
    let outer := state.flags
    let index := state.groups + 1
    let inner : State := match kind with
      | .group (some name) => { state with groups := index, names := (name, index) :: state.names }
      | .group none => { state with groups := index }
      | .plain flags => { state with flags := flags }
      | _ => state
    let (body, after) ← alternatives inner fuel
    match after.rest with
    | ')' :: rest =>
      let node : Node := match kind with
        | .group _ => .capture index body
        | .look ahead negated => .look ahead negated body
        | .atomic => .atomic body
        | _ => body
      return (node, { after with rest := rest, flags := outer })
    | _ => .error .malformed
termination_by structural fuel

end

end Reader

/-- Reads a pattern in the plain or the rich notation. -/
def Node.read (rich : Bool) (text : Text) : Except Refusal Node :=
  let start := ⟨text, ⟨false, false, false, false⟩, 0, [], rich⟩
  match Reader.alternatives start (3 * text.length + 3) with
  | .error refusal => .error refusal
  | .ok (node, state) => if state.rest.isEmpty then .ok node else .error .malformed

end ApiLint.Pattern
