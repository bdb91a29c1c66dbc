import ApiLint.Tree.Yaml.Scalar

/-!
# The concrete tree of YAML

A stream holds documents, a document one node. A block node is a mapping, a
sequence or a block scalar, all told by indentation; a flow node is a scalar, an
alias, or a mapping or sequence in brackets. Tags and anchors come before what they
belong to, as children of the same node.

A block ends with its last part when something less indented follows it. A block
that runs up to the end of the text covers the line breaks there as well. A comment
belongs to the innermost block that is still open where it stands, or to the stream
when it stands before the first document.

A text that is no YAML has no tree.
-/

namespace ApiLint.Tree.OfYaml

/-- A node over its children: from the first to the last of them. -/
def spanning (kind : String) (children : List Tree) : Tree :=
  .named kind (firstStart children 0) (lastStop children 0) children

/-- A node with a tag or an anchor put before its children. -/
def withProperty (property : Tree) (before : List Tree) : Tree → Tree
  | .node label children =>
    .node { label with span := ⟨property.span.start, label.span.stop⟩ }
      (property :: before ++ children)

/-- A block over its children; one that runs up to the end of the text ends there. -/
def block (kind : String) (cs : Array Char) (next : Nat) (children : List Tree) : Tree :=
  let stop := if next = cs.size then cs.size else lastStop children 0
  .named kind (firstStart children 0) stop children

def blockNode (inner : Tree) : Tree := .named "block_node" inner.span.start inner.span.stop [inner]

/-- Whether the character at `i`, followed by a gap, is this indicator. -/
def isIndicator (c : Char) (cs : Array Char) (i : Nat) : Bool :=
  cs[i]? == some c && isGapAt cs (i + 1)

/-- Whether a colon at `i` separates a key from its value in flow notation. After a
key that ends in a quote or bracket nothing has to follow the colon. -/
def isFlowColon (cs : Array Char) (closed : Bool) (i : Nat) : Bool :=
  cs[i]? == some ':'
    && (closed || isGapAt cs (i + 1) || ((cs[i + 1]?).map isFlowMark).getD false)

/-- Whether a node ends in a quote or bracket. -/
def isClosed (cs : Array Char) (tree : Tree) : Bool :=
  match cs[tree.span.stop - 1]? with
  | some c => c == '"' || c == '\'' || c == ']' || c == '}'
  | none => false

def pairParts (question : List Tree) (key? : Option Tree) (between : List Tree)
    (colon? : Option Tree)
    (after : List Tree) (value? : Option Tree) : List Tree :=
  question ++ (key?.map (·.withField .key)).toList ++ between ++ colon?.toList ++ after
    ++ (value?.map (·.withField .value)).toList

mutual

/-- A flow node at `i`, its properties included; `outer` is the indentation that a
plain scalar of several lines has to exceed, and `oneLine` keeps it on one line. -/
def flowNode (cs : Array Char) (flow oneLine : Bool) (outer : Int) (i fuel : Nat) : Step Tree :=
  match fuel with
  | 0 => none
  | fuel + 1 =>
    match property? cs i with
    | some (property, stop) =>
      let (comments, next) := gapAt cs stop
      let alone : Step Tree := some (spanning "flow_node" [property], stop)
      if oneLine && crossesLine cs stop next then alone
      else match flowNode cs flow oneLine outer next fuel with
        | some (tree, after) => some (withProperty property comments tree, after)
        | none => alone
    | none =>
      let content : Step Tree :=
        match cs[i]? with
        | some '*' => alias? cs i
        | some '"' => quoted? cs i
        | some '\'' => quoted? cs i
        | some '[' => flowItems cs (i + 1) [.mark "[" i (i + 1)] fuel
        | some '{' => flowMembers cs (i + 1) [.mark "\x7b" i (i + 1)] fuel
        | _ =>
          if startsPlain cs flow i then
            let line := plainLine cs flow i i cs.size
            let stop := if oneLine then line else plainLines cs flow outer line cs.size
            if stop = i then none else some (plainNode cs i stop, stop)
          else none
      content.map fun (tree, stop) => (spanning "flow_node" [tree], stop)
termination_by structural fuel

/-- What follows the key of a pair in flow notation, from `i` on: the colon and
perhaps a value; the parts after the key, or nothing without a colon. -/
def flowValue (cs : Array Char) (closed : Bool) (i fuel : Nat) : Step (List Tree) :=
  match fuel with
  | 0 => none
  | fuel + 1 =>
    let (before, colon) := gapAt cs i
    if isFlowColon cs closed colon then
      let mark := Tree.mark ":" colon (colon + 1)
      let (after, start) := gapAt cs (colon + 1)
      match flowNode cs true false (-1) start fuel with
      | some (tree, stop) => some (pairParts [] none before (some mark) after (some tree), stop)
      | none => some (before ++ [mark], colon + 1)
    else none
termination_by structural fuel

/-- An entry in flow notation at `i`: a pair, or a node without a colon. -/
def flowEntry (cs : Array Char) (i fuel : Nat) : Step Tree :=
  match fuel with
  | 0 => none
  | fuel + 1 =>
    if isIndicator '?' cs i then
      let mark := Tree.mark "?" i (i + 1)
      let (comments, start) := gapAt cs (i + 1)
      match flowNode cs true false (-1) start fuel with
      | some (key, stop) =>
        match flowValue cs (isClosed cs key) stop fuel with
        | some (parts, stop) =>
          some (spanning "flow_pair" (mark :: comments ++ key.withField .key :: parts), stop)
        | none => some (spanning "flow_pair" (mark :: comments ++ [key.withField .key]), stop)
      | none =>
        match flowValue cs true (i + 1) fuel with
        | some (parts, stop) => some (spanning "flow_pair" (mark :: parts), stop)
        | none => some (spanning "flow_pair" [mark], i + 1)
    else match flowNode cs true false (-1) i fuel with
      | some (key, stop) =>
        match flowValue cs (isClosed cs key) stop fuel with
        | some (parts, stop) => some (spanning "flow_pair" (key.withField .key :: parts), stop)
        | none => some (key, stop)
      | none =>
        match flowValue cs true i fuel with
        | some (parts, stop) => some (spanning "flow_pair" parts, stop)
        | none => none
termination_by structural fuel

/-- The rest of a flow sequence from `i` on; what was read is held in reverse. -/
def flowItems (cs : Array Char) (i : Nat) (held : List Tree) (fuel : Nat) : Step Tree :=
  match fuel with
  | 0 => none
  | fuel + 1 =>
    let (comments, i) := gapAt cs i
    let held := comments.reverse ++ held
    match cs[i]? with
    | some ']' => some (spanning "flow_sequence" (Tree.mark "]" i (i + 1) :: held).reverse, i + 1)
    | some ',' => flowItems cs (i + 1) (.mark "," i (i + 1) :: held) fuel
    | _ =>
      match flowEntry cs i fuel with
      | some (entry, stop) => flowItems cs stop (entry :: held) fuel
      | none => none
termination_by structural fuel

/-- The rest of a flow mapping from `i` on; what was read is held in reverse. -/
def flowMembers (cs : Array Char) (i : Nat) (held : List Tree) (fuel : Nat) : Step Tree :=
  match fuel with
  | 0 => none
  | fuel + 1 =>
    let (comments, i) := gapAt cs i
    let held := comments.reverse ++ held
    match cs[i]? with
    | some '}' => some (spanning "flow_mapping" (Tree.mark "\x7d" i (i + 1) :: held).reverse, i + 1)
    | some ',' => flowMembers cs (i + 1) (.mark "," i (i + 1) :: held) fuel
    | _ =>
      match flowEntry cs i fuel with
      | some (entry, stop) => flowMembers cs stop (entry :: held) fuel
      | none => none
termination_by structural fuel

end

/-- A key on one line at `i` and the place of its colon, which a gap follows. -/
def implicitKey? (cs : Array Char) (i : Nat) : Step Tree :=
  match flowNode cs false true (-1) i (2 * cs.size + 2) with
  | some (key, stop) =>
    let colon := skipWhile isBlankChar cs stop cs.size
    if isIndicator ':' cs colon && !crossesLine cs i colon then some (key, colon) else none
  | none => none

/-- The end of a block scalar whose header ends at `i`: its lines are the blank ones
and those indented deeper than `outer` columns; `last` is the end of the last line that
is not blank. -/
def blockLines (cs : Array Char) (outer : Int) (i last : Nat) : Nat → Nat
  | 0 => last
  | fuel + 1 =>
    if i ≥ cs.size then cs.size
    else
      let start := skipWhile isBreak cs i cs.size
      let content := skipWhile (· == ' ') cs start cs.size
      let stop := skipWhile (fun c => !isBreak c) cs content cs.size
      if content ≥ cs.size then cs.size
      else if isBreak ((cs[content]?).getD ' ') then blockLines cs outer stop last fuel
      else if outer < columnAt cs content && !isMarker cs content then
        blockLines cs outer stop stop fuel
      else last

/-- A block scalar at `i`: its header, perhaps a comment, and its lines. -/
def blockScalar (cs : Array Char) (outer : Int) (i : Nat) : Tree × Nat :=
  let kind := String.ofList [(cs[i]?).getD '|']
  let header := skipWhile (fun c => !(isBlankChar c || isBreak c)) cs i cs.size
  let blank := skipWhile isBlankChar cs header cs.size
  let line := skipWhile (fun c => !isBreak c) cs blank cs.size
  let comment := if blank < line then [Tree.named "comment" blank line []] else []
  let stop := blockLines cs outer line line cs.size
  (.named "block_scalar" i stop (.mark kind i header :: comment), stop)

mutual

/-- A node at `i` inside a block that is indented by `outer` columns. A mapping may
start here only when `compact` says so. -/
def anyNode (cs : Array Char) (outer : Int) (compact : Bool) (i fuel : Nat) : Step Tree :=
  match fuel with
  | 0 => none
  | fuel + 1 =>
    let startsMapping :=
      isIndicator '?' cs i || isIndicator ':' cs i || (implicitKey? cs i).isSome
    if isIndicator '-' cs i then
      (sequenceItems cs (columnAt cs i) i [] fuel).map fun (tree, stop) => (blockNode tree, stop)
    else if compact && startsMapping then
      (mappingPairs cs (columnAt cs i) i [] fuel).map fun (tree, stop) => (blockNode tree, stop)
    else if cs[i]? == some '|' || cs[i]? == some '>' then
      let (tree, stop) := blockScalar cs outer i
      some (blockNode tree, stop)
    else match property? cs i with
      | some (property, stop) =>
        let (comments, next) := gapAt cs stop
        let alone : Step Tree := some (spanning "flow_node" [property], stop)
        let newLine := crossesLine cs stop next
        let deeper := decide (outer < columnAt cs next)
          || (decide (outer = columnAt cs next) && isIndicator '-' cs next)
        if next = cs.size || isMarker cs next || (newLine && !deeper) then alone
        else match anyNode cs outer (compact || newLine) next fuel with
          | some (tree, after) => some (withProperty property comments tree, after)
          | none => alone
      | none => flowNode cs false false outer i (2 * cs.size + 2)
termination_by structural fuel

/-- The node that follows an indicator or colon which ends at `i`, if there is one;
the block around it is indented by `outer` columns. `compact` allows a block on the
same line, and `level` a sequence at the indentation of the block itself. -/
def nested (cs : Array Char) (outer : Nat) (compact level : Bool) (i fuel : Nat) :
    Step (List Tree × Option Tree) :=
  match fuel with
  | 0 => none
  | fuel + 1 =>
    let (comments, next) := gapAt cs i
    let newLine := crossesLine cs i next
    let column := columnAt cs next
    let deeper := outer < column || (level && outer == column && isIndicator '-' cs next)
    if next = cs.size || isMarker cs next || (newLine && !deeper) then some (([], none), i)
    else match anyNode cs outer (compact || newLine) next fuel with
      | some (tree, stop) => some ((comments, some tree), stop)
      | none => none
termination_by structural fuel

/-- The items of a block sequence at a column, from `i` on; what was read is held in
reverse. -/
def sequenceItems (cs : Array Char) (column i : Nat) (held : List Tree) (fuel : Nat) : Step Tree :=
  match fuel with
  | 0 => none
  | fuel + 1 =>
    match nested cs column true false (i + 1) fuel with
    | none => none
    | some ((comments, tree?), stop) =>
      let mark := Tree.mark "-" i (i + 1)
      let item := spanning "block_sequence_item" (mark :: comments ++ tree?.toList)
      let (trailing, next) := gapAt cs stop
      let held := trailing.reverse ++ item :: held
      if next < cs.size && columnAt cs next == column && isIndicator '-' cs next
          && !isMarker cs next then
        sequenceItems cs column next held fuel
      else
        let after := if next = cs.size then next else lastStop trailing stop
        some (block "block_sequence" cs next held.reverse, after)
termination_by structural fuel

/-- The pairs of a block mapping at a column, from `i` on; what was read is held in
reverse. -/
def mappingPairs (cs : Array Char) (column i : Nat) (held : List Tree) (fuel : Nat) : Step Tree :=
  match fuel with
  | 0 => none
  | fuel + 1 =>
    match mappingPair cs column i fuel with
    | none => none
    | some (pair, stop) =>
      let (trailing, next) := gapAt cs stop
      let held := trailing.reverse ++ pair :: held
      if next < cs.size && columnAt cs next == column && !isMarker cs next
          && (isIndicator '?' cs next || isIndicator ':' cs next
            || (implicitKey? cs next).isSome) then
        mappingPairs cs column next held fuel
      else
        let after := if next = cs.size then next else lastStop trailing stop
        some (block "block_mapping" cs next held.reverse, after)
termination_by structural fuel

def mappingPair (cs : Array Char) (column i fuel : Nat) : Step Tree :=
  match fuel with
  | 0 => none
  | fuel + 1 =>
    if isIndicator '?' cs i then
      match nested cs column true true (i + 1) fuel with
      | none => none
      | some ((comments, key?), stop) =>
        let question := Tree.mark "?" i (i + 1) :: comments
        let (between, colon) := gapAt cs stop
        if isIndicator ':' cs colon && columnAt cs colon == column then
          match nested cs column true true (colon + 1) fuel with
          | none => none
          | some ((after, value?), stop) =>
            let mark := Tree.mark ":" colon (colon + 1)
            let parts := pairParts question key? between (some mark) after value?
            some (spanning "block_mapping_pair" parts, stop)
        else some (spanning "block_mapping_pair" (pairParts question key? [] none [] none), stop)
    else
      let keyAndColon : Step (Option Tree) :=
        if isIndicator ':' cs i then some (none, i)
        else (implicitKey? cs i).map fun (key, colon) => (some key, colon)
      match keyAndColon with
      | none => none
      | some (key?, colon) =>
        match nested cs column false true (colon + 1) fuel with
        | none => none
        | some ((after, value?), stop) =>
          let mark := Tree.mark ":" colon (colon + 1)
          some (spanning "block_mapping_pair" (pairParts [] key? [] (some mark) after value?), stop)
termination_by structural fuel

end

/-- A directive at `i`: the version, a tag handle, or one that is reserved. -/
def directive (cs : Array Char) (i : Nat) : Tree × Nat :=
  let word (i : Nat) : Nat := skipWhile (fun c => !(isBlankChar c || isBreak c)) cs i cs.size
  let blanks (i : Nat) : Nat := skipWhile isBlankChar cs i cs.size
  let name := (cs.extract (i + 1) (word i)).toList
  let first := blanks (word i)
  let second := blanks (word first)
  if name = "YAML".toList then
    (.named "yaml_directive" i (word first) [.named "yaml_version" first (word first) []],
      word first)
  else if name = "TAG".toList then
    (.named "tag_directive" i (word second)
      [.named "tag_handle" first (word first) [], .named "tag_prefix" second (word second) []],
      word second)
  else
    (.named "reserved_directive" i (word i) [.named "directive_name" (i + 1) (word i) []], word i)

/-- The directives and comments from `i` on. -/
def directives (cs : Array Char) (i : Nat) (held : List Tree) : Nat → List Tree × Nat
  | 0 => (held.reverse, i)
  | fuel + 1 =>
    let (comments, next) := gapAt cs i
    if cs[next]? == some '%' && columnAt cs next == 0 then
      let (tree, stop) := directive cs next
      directives cs stop (tree :: comments.reverse ++ held) fuel
    else ((comments.reverse ++ held).reverse, next)

/-- The documents of a stream from `i` on; what was read is held in reverse. -/
def documents (cs : Array Char) (i : Nat) (held : List Tree) : Nat → Option (List Tree)
  | 0 => none
  | fuel + 1 =>
    let (leading, start) := gapAt cs i
    let held := leading.reverse ++ held
    if start = cs.size then some held.reverse
    else
      let (head, next) := directives cs start [] cs.size
      let (head, next) :=
        if isMarkerOf '-' cs next then
          let mark := Tree.mark "---" next (next + 3)
          let (comments, after) := gapAt cs (next + 3)
          (head ++ mark :: comments, after)
        else (head, next)
      let body : Option (List Tree × Nat) :=
        if next = cs.size || isMarker cs next then some ([], next)
        else (anyNode cs (-1) true next (4 * cs.size + 4)).map fun (tree, stop) => ([tree], stop)
      match body with
      | none => none
      | some (tree, stop) =>
        let (trailing, next) := gapAt cs stop
        if isMarkerOf '.' cs next then
          let parts := head ++ tree ++ trailing ++ [.mark "..." next (next + 3)]
          documents cs (next + 3) (spanning "document" parts :: held) fuel
        else if next = cs.size || isMarkerOf '-' cs next then
          if (head ++ tree).isEmpty then none
          else
            documents cs next (trailing.reverse ++ spanning "document" (head ++ tree) :: held) fuel
        else none

end ApiLint.Tree.OfYaml

namespace ApiLint.Tree

def ofYaml? (text : Text) : Option Tree :=
  let cs := text.toArray
  (OfYaml.documents cs 0 [] (cs.size + 1)).map fun parts =>
    Tree.inBytes text (.named "stream" (firstStart parts 0) cs.size parts)

end ApiLint.Tree
