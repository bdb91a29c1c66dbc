import ApiLint.Yaml.Token

/-!
# Reading scalars

Five styles of scalars share one rule for line breaks inside running text: a single
break reads as a blank, and of several breaks the first is dropped. Blanks next to a
break do not count. In block style, only folded scalars join lines, and only between
lines that do not start with a blank.
-/

namespace ApiLint.Yaml

/-- The white space between two words: blanks on one line, or line breaks. -/
structure Gap where
  blanks : Text
  breaks : Text
  broken : Bool
  deriving Repr, Inhabited

namespace Gap

/-- Nothing between two words, on a new line when `broken`. -/
def empty (broken : Bool) : Gap := ⟨[], [], broken⟩

/-- What a row of line breaks reads as. -/
def fold : Text → Text
  | ['\n'] => [' ']
  | '\n' :: more => more
  | breaks => breaks

/-- What the gap reads as; after an escaped line break all further breaks count. -/
def text (gap : Gap) (escaped : Bool) : Text :=
  if !gap.broken then gap.blanks else if escaped then gap.breaks else fold gap.breaks

end Gap

/-- Reads on in a gap. In a plain scalar a tab must not stand before the column
`margin` of a new line. -/
def gapFrom (cs : Array Char) (margin : Nat) (start : Position) (spot : Spot) (held : Gap) :
    Nat → Except Fault (Gap × Spot)
  | 0 => .ok (held, spot)
  | fuel + 1 =>
    match spot.char? cs 0 with
    | none => .ok (held, spot)
    | some c =>
      if c == ' ' || c == '\t' then
        if held.broken && decide (spot.column < margin) && c == '\t' then
          spot.fault .tabInPlainScalar .plainScalar start
        else
          gapFrom cs margin start (spot.skip 1)
            (if held.broken then held else { held with blanks := held.blanks ++ [c] }) fuel
      else if breaksLine c then
        gapFrom cs margin start (spot.skipBreak cs)
          ⟨[], held.breaks ++ [normalBreak c], true⟩ fuel
      else .ok (held, spot)

def escapes : List (Char × Nat) := [
  ('0', 0), ('a', 7), ('b', 8), ('t', 9), ('\t', 9), ('n', 10), ('v', 11), ('f', 12), ('r', 13),
  ('e', 0x1B), (' ', 0x20), ('"', 0x22), ('/', 0x2F), ('\\', 0x5C), ('N', 0x85), ('_', 0xA0),
  ('L', 0x2028), ('P', 0x2029)]

def hexDigit? (c : Char) : Option Nat :=
  if '0' ≤ c && c ≤ '9' then some (c.toNat - 48)
  else if 'a' ≤ c && c ≤ 'f' then some (c.toNat - 87)
  else if 'A' ≤ c && c ≤ 'F' then some (c.toNat - 55)
  else none

/-- The number that `width` hexadecimal digits from here write. -/
def hexNumber? (cs : Array Char) (spot : Spot) (width : Nat) : Option Nat :=
  (List.range width).foldl
    (fun sum? k => do return (← sum?) * 16 + (← hexDigit? (← spot.char? cs k))) (some 0)

def readEscape (cs : Array Char) (start : Position) (spot : Spot) : Except Fault (Char × Spot) :=
  let numeric (width : Nat) : Except Fault (Char × Spot) :=
    let digits := spot.skip 2
    match hexNumber? cs digits width with
    | none => digits.fault .hexadecimalExpected .quotedEscape start
    | some n =>
      if n.isValidChar then .ok (Char.ofNat n, digits.skip width)
      else digits.fault .escapeCode .quotedEscape start
  match spot.char? cs 1 with
  | some 'x' => numeric 2
  | some 'u' => numeric 4
  | some 'U' => numeric 8
  | some c =>
    match escapes.find? fun pair => pair.1 == c with
    | some (_, n) => .ok (Char.ofNat n, spot.skip 2)
    | none => spot.fault .unknownEscape .quotedEscape start
  | none => spot.fault .unknownEscape .quotedEscape start

/-- A word inside quotes: its characters, whether it ends in an escaped line break,
and the place after it. -/
def quotedWord (cs : Array Char) (quote : Char) (start : Position) (spot : Spot) (held : Text) :
    Nat → Except Fault (Text × Bool × Spot)
  | 0 => .ok (held.reverse, false, spot)
  | fuel + 1 =>
    match spot.char? cs 0 with
    | none => .ok (held.reverse, false, spot)
    | some c =>
      if isGapHere (some c) then .ok (held.reverse, false, spot)
      else if c == quote then
        if quote == '\'' && spot.char? cs 1 == some '\'' then
          quotedWord cs quote start (spot.skip 2) ('\'' :: held) fuel
        else .ok (held.reverse, false, spot)
      else if quote == '"' && c == '\\' then
        if isBreakHere (spot.char? cs 1) then .ok (held.reverse, true, (spot.skip 1).skipBreak cs)
        else match readEscape cs start spot with
          | .error fault => .error fault
          | .ok (character, next) => quotedWord cs quote start next (character :: held) fuel
      else quotedWord cs quote start (spot.skip 1) (c :: held) fuel

/-- The rest of a quoted scalar and the place after its closing quote. -/
def quotedRest (cs : Array Char) (quote : Char) (start : Position) (spot : Spot) (held : Text) :
    Nat → Except Fault (Text × Spot)
  | 0 => spot.fault .endOfStream .quotedScalar start
  | fuel + 1 => do
    if spot.isDocumentMarker cs then spot.fault .documentIndicator .quotedScalar start
    else if (spot.char? cs 0).isNone then spot.fault .endOfStream .quotedScalar start
    else
      let (word, escaped, spot) ← quotedWord cs quote start spot [] cs.size
      if spot.char? cs 0 == some quote then return (held ++ word, spot.skip 1)
      else
        let (gap, spot) ← gapFrom cs 0 start spot (.empty escaped) cs.size
        quotedRest cs quote start spot (held ++ word ++ gap.text escaped) fuel

def readQuoted (cs : Array Char) (quote : Char) (spot : Spot) : Except Fault (Text × Spot) :=
  quotedRest cs quote spot.place (spot.skip 1) [] (cs.size + 1)

/-- The marks that end a plain scalar inside brackets. -/
def flowMarks : List Char := [',', '[', ']', '{', '}']

/-- A word of a plain scalar and the place after it. -/
def plainWord (cs : Array Char) (flow : Bool) (start : Position) (spot : Spot) (held : Text) :
    Nat → Except Fault (Text × Spot)
  | 0 => .ok (held.reverse, spot)
  | fuel + 1 =>
    match spot.char? cs 0 with
    | none => .ok (held.reverse, spot)
    | some c =>
      if isGapHere (some c) then .ok (held.reverse, spot)
      else if flow && c == ':' && isOneOf ('?' :: flowMarks) (spot.char? cs 1) then
        spot.fault .colonInPlainScalar .plainScalar start
      else if (c == ':' && isGapHere (spot.char? cs 1)) || (flow && flowMarks.contains c) then
        .ok (held.reverse, spot)
      else plainWord cs flow start (spot.skip 1) (c :: held) fuel

/-- The rest of a plain scalar whose text so far is followed by a gap: the text, whether
it ends in a gap with a line break, and the place after that gap. -/
def plainRest (cs : Array Char) (flow : Bool) (margin : Nat) (start : Position) (spot : Spot)
    (held : Text) (gap : Gap) : Nat → Except Fault (Text × Bool × Spot)
  | 0 => .ok (held, gap.broken, spot)
  | fuel + 1 => do
    if spot.isDocumentMarker cs || spot.char? cs 0 == some '#' then return (held, gap.broken, spot)
    else
      let (word, spot) ← plainWord cs flow start spot [] cs.size
      let held := if word.isEmpty then held else held ++ gap.text false ++ word
      let broken := word.isEmpty && gap.broken
      if (spot.char? cs 0).isNone || !isGapHere (spot.char? cs 0) then return (held, broken, spot)
      else
        let (gap, spot) ← gapFrom cs margin start spot (.empty false) cs.size
        if !flow && decide (spot.column < margin) then return (held, gap.broken, spot)
        else plainRest cs flow margin start spot held gap fuel

/-- A plain scalar; outside brackets its later lines are indented to `margin` at least. -/
def readPlain (cs : Array Char) (flow : Bool) (margin : Nat) (spot : Spot) :
    Except Fault (Text × Bool × Spot) :=
  plainRest cs flow margin spot.place spot [] (.empty false) (cs.size + 1)

/-- What happens to the line breaks at the end of a block scalar. -/
inductive Chomping where
  | strip
  | clip
  | keep
  deriving DecidableEq, Repr, Inhabited

def Chomping.ofSign? : Option Char → Option Chomping
  | some '+' => some .keep
  | some '-' => some .strip
  | _ => none

/-- The indentation that a digit asks for; none where no digit stands. -/
def indentDigit (cs : Array Char) (start : Position) (spot : Spot) :
    Except Fault (Option Nat × Spot) :=
  match spot.char? cs 0 with
  | some c =>
    if c == '0' then spot.fault .zeroIndentation .blockScalar start
    else if c.isDigit then .ok (some (c.toNat - 48), spot.skip 1)
    else .ok (none, spot)
  | none => .ok (none, spot)

/-- The header of a block scalar, sign and digit in either order. -/
def blockHeader (cs : Array Char) (start : Position) (spot : Spot) :
    Except Fault (Chomping × Option Nat × Spot) := do
  match Chomping.ofSign? (spot.char? cs 0) with
  | some chomping =>
    let (indent?, spot) ← indentDigit cs start (spot.skip 1)
    return (chomping, indent?, spot)
  | none =>
    let (indent?, spot) ← indentDigit cs start spot
    match indent?, Chomping.ofSign? (spot.char? cs 0) with
    | some _, some chomping => return (chomping, indent?, spot.skip 1)
    | _, _ => return (.clip, indent?, spot)

/-- The line breaks and indentation before a line of a block scalar: the breaks, the
widest indentation seen, and the place reached. `indent` is 0 until it is known. -/
def blockBreaks (cs : Array Char) (indent : Nat) (start : Position) (spot : Spot) (held : Text)
    (widest : Nat) : Nat → Except Fault (Text × Nat × Spot)
  | 0 => .ok (held, widest, spot)
  | fuel + 1 =>
    let blanks := countWhile (· == ' ') cs spot.index cs.size
    let spot := spot.skip (if indent = 0 then blanks else min blanks (indent - spot.column))
    let widest := max widest spot.column
    match spot.char? cs 0 with
    | none => .ok (held, widest, spot)
    | some c =>
      if c == '\t' && (indent == 0 || decide (spot.column < indent)) then
        spot.fault .tabInIndentation .blockScalar start
      else if breaksLine c then
        blockBreaks cs indent start (spot.skipBreak cs) (held ++ [normalBreak c]) widest fuel
      else .ok (held, widest, spot)

/-- The lines of a block scalar read so far: their text, the break after the last of
them, the breaks of the empty lines since, and whether it started with a blank. -/
structure BlockLines where
  text : Text
  lastBreak : Text
  emptyLines : Text
  blankStart : Bool
  deriving Repr, Inhabited

/-- The text before the next line, which starts with a blank or not. -/
def BlockLines.joined (lines : BlockLines) (folded blank : Bool) : Text :=
  let breaks :=
    if folded && lines.lastBreak == ['\n'] && !lines.blankStart && !blank then
      if lines.emptyLines.isEmpty then [' '] else []
    else lines.lastBreak
  lines.text ++ breaks ++ lines.emptyLines

def BlockLines.chomped (lines : BlockLines) : Chomping → Text
  | .strip => lines.text
  | .clip => lines.text ++ lines.lastBreak
  | .keep => lines.text ++ lines.lastBreak ++ lines.emptyLines

def blockLines (cs : Array Char) (folded : Bool) (indent : Nat) (start : Position) (spot : Spot)
    (held : BlockLines) : Nat → Except Fault (BlockLines × Spot)
  | 0 => .ok (held, spot)
  | fuel + 1 => do
    if spot.column = indent ∧ (spot.char? cs 0).isSome then
      let blank := isBlankHere (spot.char? cs 0)
      let (line, spot) := spot.span cs fun c => !breaksLine c
      let (lastBreak, spot) := match spot.char? cs 0 with
        | some c => ([normalBreak c], spot.skipBreak cs)
        | none => ([], spot)
      let (emptyLines, _, spot) ← blockBreaks cs indent start spot [] 0 cs.size
      blockLines cs folded indent start spot
        ⟨held.joined folded blank ++ line, lastBreak, emptyLines, blank⟩ fuel
    else return (held, spot)

/-- A block scalar at its indicator, inside a block indented to `outer` columns. -/
def readBlock (cs : Array Char) (folded : Bool) (outer : Int) (spot : Spot) :
    Except Fault (Text × Spot) := do
  let start := spot.place
  let (chomping, indent?, spot) ← blockHeader cs start (spot.skip 1)
  let spot := (spot.skipBlanks cs).skipComment cs
  if !isLineEndHere (spot.char? cs 0) then spot.fault .commentOrBreakExpected .blockScalar start
  else
    let spot := if isBreakHere (spot.char? cs 0) then spot.skipBreak cs else spot
    let given := match indent? with
      | some n => (max outer 0).toNat + n
      | none => 0
    let (emptyLines, widest, spot) ← blockBreaks cs given start spot [] 0 (cs.size + 1)
    let indent := if given = 0 then max (max widest (outer + 1).toNat) 1 else given
    let (lines, spot) ←
      blockLines cs folded indent start spot ⟨[], [], emptyLines, false⟩ (cs.size + 1)
    return (lines.chomped chomping, spot)

end ApiLint.Yaml
