import ApiLint.Pattern.Node

/-!
# Matching patterns

A piece is matched at a place of the text and hands each place where its match may end to
a continuation, which accepts or rejects it; rejected, the piece tries its next match. A
repetition stops when an iteration moves nowhere, so it runs at most once for every
character, and the search always ends.

Only whether a pattern matches is asked, so which match is tried first does not matter,
except where a match is not given up again.
-/

namespace ApiLint.Pattern

/-- The stretches matched by numbered groups, the latest in front. -/
abbrev Captures := List (Nat × Nat × Nat)

/-- A place in the text and what groups have matched on the way there. -/
structure Progress where
  index : Nat
  captures : Captures
  deriving Repr, Inhabited

/-- What tries to go on from a place. -/
abbrev Continuation := Progress → Option Progress

abbrev Matcher := Progress → Continuation → Option Progress

/-- Whether the character at `i` is part of a word. -/
def isWordAt (cs : Array Char) (i : Nat) : Bool :=
  match cs[i]? with
  | some c => isWordChar c
  | none => false

/-- Whether a word starts or ends at `i`. -/
def isEdge (cs : Array Char) (i : Nat) : Bool := (i != 0 && isWordAt cs (i - 1)) != isWordAt cs i

/-- Whether the set has the character, or its other case if that is allowed. -/
def accepts (set : CharSet) (anyCase : Bool) (c : Char) : Bool :=
  set.holds c || (anyCase && (set.holds c.toLower || set.holds c.toUpper))

def guarded (condition : Bool) (p : Progress) (next : Continuation) : Option Progress :=
  if condition then next p else none

/-- Matches a body up to `most` more times, each time moving on. -/
def repeatUpTo (body : Matcher) (next : Continuation) : Nat → Continuation
  | 0, p => next p
  | most + 1, p =>
    (body p fun q => if q.index = p.index then none else repeatUpTo body next most q).or (next p)

/-- Matches a body `least` times, and then goes on. -/
def repeatExactly (body : Matcher) (next : Continuation) : Nat → Continuation
  | 0, p => next p
  | least + 1, p => body p fun q => repeatExactly body next least q

def Node.run (cs : Array Char) : Node → Matcher
  | .empty, p, next => next p
  | .one set anyCase, p, next =>
    match cs[p.index]? with
    | some c => if accepts set anyCase c then next { p with index := p.index + 1 } else none
    | none => none
  | .lineStart, p, next => guarded (p.index == 0 || cs[p.index - 1]? == some '\n') p next
  | .lineEnd, p, next => guarded (p.index == cs.size || cs[p.index]? == some '\n') p next
  | .textStart, p, next => guarded (p.index == 0) p next
  | .textEnd, p, next => guarded (p.index == cs.size) p next
  | .wordEdge inside, p, next => guarded (isEdge cs p.index != inside) p next
  | .seq first second, p, next => first.run cs p fun q => second.run cs q next
  | .alt first second, p, next => (first.run cs p next).or (second.run cs p next)
  | .repeated body least most?, p, next =>
    let more := match most? with
      | some most => most - least
      | none => cs.size + 1
    repeatExactly (body.run cs) (repeatUpTo (body.run cs) next more) least p
  | .capture index body, p, next =>
    body.run cs p fun q => next { q with captures := (index, p.index, q.index) :: q.captures }
  | .again index, p, next =>
    match p.captures.find? fun capture => capture.1 == index with
    | some (_, start, stop) =>
      let width := stop - start
      guarded (p.index + width ≤ cs.size &&
        (cs.extract start stop == cs.extract p.index (p.index + width)))
        { p with index := p.index + width } fun q => next q
    | none => none
  | .look true negated body, p, next =>
    match body.run cs p some, negated with
    | some q, false => next { p with captures := q.captures }
    | none, true => next p
    | _, _ => none
  | .look false negated body, p, next =>
    let found := (List.range (p.index + 1)).findSome? fun start =>
      body.run cs { p with index := start } fun q => if q.index = p.index then some q else none
    match found, negated with
    | some q, false => next { p with captures := q.captures }
    | none, true => next p
    | _, _ => none
  | .atomic body, p, next => (body.run cs p some).bind next

/-- Whether a pattern matches anywhere in a text. -/
def Node.occursIn (node : Node) (text : Text) : Bool :=
  let cs := text.toArray
  (List.range (cs.size + 1)).any fun start => (node.run cs ⟨start, []⟩ some).isSome

end ApiLint.Pattern
