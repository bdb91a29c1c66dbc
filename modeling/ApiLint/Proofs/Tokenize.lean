import ApiLint.Tokenize
import ApiLint.Proofs.Keys
import ApiLint.Proofs.Resolve

/-!
# Cutting lines at keys

Keys that fit a text can be cut out of it, whatever their order and however they
overlap: `splitLines?_spec` gives lines of tokens that spell the lines of the text, none
of them with an empty token, and the names among them are those of the keys that are not
passed over (`taken`, and `takenFrom` for all lines), each where it stands in the text.

The proof follows the two loops. `Covers` is what they keep: the tokens so far are a
piece of the line, with these names in it, and two pieces next to each other can be put
together (`Covers.append`). `takeKeys?_spec` is one line, on which `done` has been cut
and `left` has not; that a key lies on the line it says is what keeps the cut inside of
it. `cutLines?_spec` then goes line by line.
-/

namespace ApiLint

/-- The name of a key, where it stands in a text. -/
def KeySpan.placed (text : Text) (key : KeySpan) : PlacedName :=
  ⟨⟨.ofByte text key.name.start, .ofByte text key.name.stop⟩, (key.name.cut? text).getD []⟩

theorem KeySpan.placed_eq {text front name rest : Text} {key : KeySpan}
    (htext : text = front ++ (name ++ rest))
    (hname : key.name = ⟨front.byteLength, front.byteLength + name.byteLength⟩) :
    key.placed text = ⟨⟨Position.after front, Position.after (front ++ name)⟩, name⟩ := by
  have hstart : Position.ofByte text front.byteLength = Position.after front := by
    rw [htext, Position.ofByte_byteLength]
  have hstop : Position.ofByte text (front.byteLength + name.byteLength) =
      Position.after (front ++ name) := by
    rw [htext, ← List.append_assoc, ← Text.byteLength_append, Position.ofByte_byteLength]
  have hcut : ByteSpan.cut? ⟨front.byteLength, front.byteLength + name.byteLength⟩ text =
      some name := by
    rw [htext]
    exact Text.bytes?_middle front name rest
  rw [placed, hname, hstart, hstop, hcut, Option.getD_some]

/-! ## Tokens over a piece of a line -/

/-- Tokens that spell a piece of a line from a column on, with these names of keys among
them. None of them is empty. -/
structure TokenLine.Covers (tokens : TokenLine) (number column : Nat) (piece : Text)
    (names : List PlacedName) : Prop where
  text_eq : tokens.text = piece
  placedNames_eq : tokens.placedNames number column = names
  ne_nil : ∀ token ∈ tokens, token.value ≠ []

/-- The names of the keys on several lines, the first of which has this number. -/
def TokenLine.placedNamesAll (number : Nat) : List TokenLine → List PlacedName
  | [] => []
  | line :: more => line.placedNames number 0 ++ placedNamesAll (number + 1) more

namespace TokenLine.Covers

theorem nil (number column : Nat) : Covers [] number column [] [] :=
  ⟨rfl, rfl, by simp⟩

theorem append {first second : TokenLine} {number column : Nat} {piece next : Text}
    {names others : List PlacedName} (hfirst : Covers first number column piece names)
    (hsecond : Covers second number (column + piece.length) next others) :
    Covers (first ++ second) number column (piece ++ next) (names ++ others) := by
  refine ⟨?_, ?_, ?_⟩
  · rw [text_append, hfirst.text_eq, hsecond.text_eq]
  · rw [placedNames_append, hfirst.text_eq, hfirst.placedNames_eq, hsecond.placedNames_eq]
  · intro token htoken
    rcases List.mem_append.mp htoken with h | h
    · exact hfirst.ne_nil token h
    · exact hsecond.ne_nil token h

theorem plain {token : Token} (hkey : token.isKey = false) (hne : token.value ≠ [])
    (number column : Nat) : Covers [token] number column token.value [] := by
  refine ⟨List.flatMap_singleton .., ?_, ?_⟩
  · rw [TokenLine.placedNames, hkey]
    rfl
  · intro other hother
    rw [List.mem_singleton.mp hother]
    exact hne

theorem key {token : Token} (hkey : token.isKey = true) (hne : token.value ≠ [])
    (number column : Nat) :
    Covers [token] number column token.value
      [⟨.onLine number column (column + token.width), token.value⟩] := by
  refine ⟨List.flatMap_singleton .., ?_, ?_⟩
  · rw [TokenLine.placedNames, if_pos hkey]
    rfl
  · intro other hother
    rw [List.mem_singleton.mp hother]
    exact hne

end TokenLine.Covers

namespace Grammar

theorem covers_plainToken (grammar : Grammar) {value : Text} (hne : value ≠ [])
    (number column : Nat) :
    TokenLine.Covers [grammar.plainToken value] number column value [] := by
  cases grammar <;> exact .plain rfl hne number column

theorem covers_quoteToken (grammar : Grammar) {value : Text} (hne : value ≠ [])
    (number column : Nat) :
    TokenLine.Covers [grammar.quoteToken value] number column value [] := by
  cases grammar <;> exact .plain rfl hne number column

theorem covers_keyToken (grammar : Grammar) {name : Text} (hne : name ≠ []) (quoted : Bool)
    (number column : Nat) :
    TokenLine.Covers [grammar.keyToken name quoted] number column name
      [⟨.onLine number column (column + name.length), name⟩] := by
  cases grammar <;> cases quoted <;> exact .key rfl hne number column

end Grammar

namespace TokenizedDocument

theorem plainTokens?_spec (grammar : Grammar) (before piece after : Text) :
    ∃ tokens, plainTokens? grammar (before ++ (piece ++ after)) before.byteLength
        (before.byteLength + piece.byteLength) = some tokens ∧
      ∀ number column, TokenLine.Covers tokens number column piece [] := by
  rw [plainTokens?]
  by_cases hpiece : piece = []
  · subst hpiece
    rw [if_neg (by simp)]
    exact ⟨[], rfl, fun number column => .nil number column⟩
  · have hpos := Text.byteLength_pos hpiece
    rw [if_pos (by omega), Text.bytes?_middle]
    exact ⟨[grammar.plainToken piece], rfl, grammar.covers_plainToken hpiece⟩

/-- The tokens of a key that fits the text, on its row and after what precedes it there. -/
theorem nameTokens?_spec (grammar : Grammar) {before opening name closing : Text}
    {key : KeySpan}
    (houter : key.outer = ⟨before.byteLength,
      before.byteLength + (opening ++ (name ++ closing)).byteLength⟩)
    (hname : key.name = ⟨(before ++ opening).byteLength,
      (before ++ opening).byteLength + name.byteLength⟩)
    (hrow : key.row = before.count '\n')
    (haround : opening = [] ∧ closing = [] ∨ opening ≠ [] ∧ closing ≠ [])
    (hline : '\n' ∉ opening ++ (name ++ closing)) (hne : name ≠ []) (after : Text) :
    ∃ tokens, nameTokens? grammar (before ++ (opening ++ (name ++ (closing ++ after)))) key =
        some tokens ∧
      TokenLine.Covers tokens key.row before.lastLine.length (opening ++ (name ++ closing))
        [key.placed (before ++ (opening ++ (name ++ (closing ++ after))))] := by
  simp only [List.mem_append, not_or] at hline
  obtain ⟨hopening, hnameline, _⟩ := hline
  have htext : before ++ (opening ++ (name ++ (closing ++ after))) =
      (before ++ opening) ++ (name ++ (closing ++ after)) := by simp
  have hcut : key.name.cut? (before ++ (opening ++ (name ++ (closing ++ after)))) = some name := by
    rw [hname, htext]
    exact Text.bytes?_middle _ _ _
  have hplaced : key.placed (before ++ (opening ++ (name ++ (closing ++ after)))) =
      ⟨.onLine key.row (before.lastLine.length + opening.length)
        (before.lastLine.length + opening.length + name.length), name⟩ := by
    rw [KeySpan.placed_eq htext hname, Position.after_append_of_not_mem _ hnameline,
      Position.after_append_of_not_mem _ hopening, hrow]
    rfl
  rw [hplaced, nameTokens?]
  show ∃ tokens, (key.name.cut? _).bind _ = some tokens ∧ _
  rw [hcut, Option.bind_some]
  rcases haround with ⟨rfl, rfl⟩ | ⟨hopen, hclose⟩
  · have hquoted : key.isQuoted = false := by
      rw [KeySpan.isQuoted, houter, hname]
      simp
    rw [hquoted]
    refine ⟨[grammar.keyToken name false], rfl, ?_⟩
    rw [List.nil_append, List.append_nil]
    exact grammar.covers_keyToken hne false key.row _
  · have hpos := Text.byteLength_pos hopen
    have hquoted : key.isQuoted = true := by
      rw [KeySpan.isQuoted, houter, hname, bne_iff_ne]
      simp only [Text.byteLength_append, ne_eq, Span.mk.injEq]
      omega
    have hfirst : Text.bytes? key.outer.start key.name.start
        (before ++ (opening ++ (name ++ (closing ++ after)))) = some opening := by
      rw [houter, hname]
      show Text.bytes? before.byteLength (before ++ opening).byteLength _ = _
      rw [Text.byteLength_append]
      exact Text.bytes?_middle _ _ _
    have hlast : Text.bytes? key.name.stop key.outer.stop
        (before ++ (opening ++ (name ++ (closing ++ after)))) = some closing := by
      have h := Text.bytes?_middle (before ++ (opening ++ name)) closing after
      rw [houter, hname]
      simp only [Text.byteLength_append, List.append_assoc, Nat.add_assoc] at h ⊢
      exact h
    rw [if_pos hquoted]
    show ∃ tokens, (Text.bytes? _ _ _).bind _ = some tokens ∧ _
    rw [hfirst, Option.bind_some]
    show ∃ tokens, (Text.bytes? _ _ _).bind _ = some tokens ∧ _
    rw [hlast, Option.bind_some]
    exact ⟨_, rfl, (grammar.covers_quoteToken hopen key.row _).append
      ((grammar.covers_keyToken hne true key.row _).append
        (grammar.covers_quoteToken hclose key.row _))⟩

/-! ## Lines -/

/-- The keys that give tokens on a row, from the byte reached on. -/
def taken (row : Nat) : Nat → List KeySpan → List KeySpan
  | _, [] => []
  | reached, key :: rest =>
    if key.row ≤ row then
      if key.row < row ∨ key.outer.start < reached then taken row reached rest
      else key :: taken row key.outer.stop rest
    else []

/-- The keys without those in front that belong to a row or an earlier one. -/
def afterRow (row : Nat) (keys : List KeySpan) : List KeySpan :=
  keys.dropWhile fun key => decide (key.row ≤ row)

/-- The keys that give tokens on the lines from a row on, the first of them starting at byte
`start`. -/
def takenFrom (row start : Nat) (keys : List KeySpan) : List Text → List KeySpan
  | [] => []
  | line :: more =>
    taken row start keys ++
      takenFrom (row + 1) (start + line.byteLength + 1) (afterRow row keys) more

theorem afterRow_subset (row : Nat) (keys : List KeySpan) : afterRow row keys ⊆ keys :=
  (List.dropWhile_sublist _).subset

/-- Cutting one key out of a line of which `done` has been cut and `left` has not. The key
starts in what is left, and since it is on this line it ends there as well. -/
theorem cutKey_spec (grammar : Grammar) {text before done left after : Text} {key : KeySpan}
    (hbefore : before.lastLine = []) (hafter : after = [] ∨ ∃ rest, after = '\n' :: rest)
    (htext : text = (before ++ done) ++ (left ++ after)) (hdone : '\n' ∉ done)
    (hkey : key.Fits text) (hrow : key.row = before.count '\n')
    (hstart : (before ++ done).byteLength ≤ key.outer.start) :
    ∃ piece rest plain name, left = piece ++ rest ∧ '\n' ∉ piece ∧
      key.outer.stop = (before ++ done ++ piece).byteLength ∧
      plainTokens? grammar text (before ++ done).byteLength key.outer.start = some plain ∧
      nameTokens? grammar text key = some name ∧
      TokenLine.Covers (plain ++ name) (before.count '\n') done.length piece
        [key.placed text] := by
  obtain ⟨front, opening, name, closing, behind, hspelled, houter, hname, hrowof, haround,
    hline, hne⟩ := hkey
  have hfrontstart : key.outer.start = front.byteLength := by rw [houter]
  obtain ⟨gap, hfront, hleft⟩ := Text.exists_append_of_byteLength_le
    (htext.symm.trans hspelled) (by omega)
  have hgap : '\n' ∉ gap := by
    have hcount : front.count '\n' = before.count '\n' + done.count '\n' + gap.count '\n' := by
      rw [hfront, List.count_append, List.count_append]
    exact List.count_eq_zero.mp (by omega)
  have hpiece : '\n' ∉ gap ++ (opening ++ (name ++ closing)) := by
    rw [List.mem_append, not_or]
    exact ⟨hgap, hline⟩
  have hsplit : (gap ++ (opening ++ (name ++ closing))) ++ behind = left ++ after := by
    rw [hleft]
    simp
  obtain ⟨more, hmore, _⟩ := Text.exists_append_of_not_mem hsplit hpiece hafter
  obtain ⟨plain, hplain, hgapcovers⟩ := plainTokens?_spec grammar (before ++ done) gap
    (opening ++ (name ++ (closing ++ behind)))
  obtain ⟨tokens, htokens, hnamecovers⟩ := nameTokens?_spec grammar houter hname hrowof haround
    hline hne behind
  rw [← hleft, ← htext, ← Text.byteLength_append, ← hfront, ← hfrontstart] at hplain
  rw [← hspelled] at htokens hnamecovers
  -- The columns of the name are counted from the start of the line, where `before` ends.
  have hcolumn : front.lastLine.length = done.length + gap.length := by
    rw [hfront, Text.lastLine_append_of_not_mem _ hgap, Text.lastLine_append_of_not_mem _ hdone,
      hbefore, List.nil_append, List.length_append]
  rw [hcolumn, hrow] at hnamecovers
  refine ⟨gap ++ (opening ++ (name ++ closing)), more, plain, tokens, hmore, hpiece, ?_, hplain,
    htokens, (hgapcovers _ _).append hnamecovers⟩
  rw [houter, hfront]
  simp only [Text.byteLength_append]
  omega

/-- Taking the keys of a line of which `done` has been cut and `left` has not. -/
theorem takeKeys?_spec (grammar : Grammar) {text before after : Text}
    (hbefore : before.lastLine = []) (hafter : after = [] ∨ ∃ rest, after = '\n' :: rest)
    (keys : List KeySpan) :
    (∀ key ∈ keys, key.Fits text) → ∀ done left, text = (before ++ done) ++ (left ++ after) →
      '\n' ∉ done →
      ∃ state piece rest,
        takeKeys? grammar text (before.count '\n') (before ++ done).byteLength keys =
          some state ∧
        left = piece ++ rest ∧ state.reached = (before ++ done ++ piece).byteLength ∧
        state.keys = afterRow (before.count '\n') keys ∧
        TokenLine.Covers state.tokens (before.count '\n') done.length piece
          ((taken (before.count '\n') (before ++ done).byteLength keys).map
            (KeySpan.placed text)) := by
  induction keys with
  | nil =>
      intro _ done left _ _
      exact ⟨_, [], left, rfl, rfl, by rw [List.append_nil], rfl, .nil _ _⟩
  | cons key keys ih =>
      intro hfits done left htext hdone
      have hkey : key.Fits text := hfits key List.mem_cons_self
      replace ih := ih fun other h => hfits other (List.mem_cons_of_mem _ h)
      rw [takeKeys?, taken]
      by_cases hrow : key.row ≤ before.count '\n'
      · have hdrop : afterRow (before.count '\n') (key :: keys) =
            afterRow (before.count '\n') keys := by
          rw [afterRow, List.dropWhile_cons, if_pos (decide_eq_true hrow), afterRow]
        rw [if_pos hrow, if_pos hrow, hdrop]
        by_cases hskip : key.row < before.count '\n' ∨
            key.outer.start < (before ++ done).byteLength
        · rw [if_pos hskip, if_pos hskip]
          exact ih done left htext hdone
        · rw [if_neg hskip, if_neg hskip]
          rw [not_or] at hskip
          obtain ⟨piece, rest, plain, name, hleft, hpiece, hstop, hplain, hname, hcovers⟩ :=
            cutKey_spec grammar hbefore hafter htext hdone hkey (by omega) (by omega)
          obtain ⟨state, next, last, hstate, hrest, hreached, hkeys, hnext⟩ :=
            ih (done ++ piece) rest (by rw [htext, hleft]; simp)
              (by rw [List.mem_append, not_or]; exact ⟨hdone, hpiece⟩)
          rw [← List.append_assoc before] at hstate hreached hnext
          rw [← hstop] at hstate hnext
          rw [hplain, hname, hstate, List.map_cons]
          refine ⟨{ state with tokens := plain ++ name ++ state.tokens }, piece ++ next, last, rfl,
            ?_, ?_, hkeys, ?_⟩
          · rw [hleft, hrest, List.append_assoc]
          · rw [← List.append_assoc]
            exact hreached
          · rw [List.length_append] at hnext
            exact hcovers.append hnext
      · have hdrop : afterRow (before.count '\n') (key :: keys) = key :: keys := by
          rw [afterRow, List.dropWhile_cons, if_neg (by simpa using hrow)]
        rw [if_neg hrow, if_neg hrow, hdrop]
        exact ⟨_, [], left, rfl, rfl, by rw [List.append_nil], rfl, .nil _ _⟩

/-- Cutting one line. -/
theorem cutLine_spec (grammar : Grammar) {text before line after : Text} {keys : List KeySpan}
    (hbefore : before.lastLine = []) (hafter : after = [] ∨ ∃ rest, after = '\n' :: rest)
    (htext : text = before ++ (line ++ after)) (hfits : ∀ key ∈ keys, key.Fits text) :
    ∃ state plain,
      takeKeys? grammar text (before.count '\n') before.byteLength keys = some state ∧
      plainTokens? grammar text state.reached (before.byteLength + line.byteLength) =
        some plain ∧
      state.keys = afterRow (before.count '\n') keys ∧
      TokenLine.Covers (state.tokens ++ plain) (before.count '\n') 0 line
        ((taken (before.count '\n') before.byteLength keys).map (KeySpan.placed text)) := by
  obtain ⟨state, piece, rest, hstate, hline, hreached, hkeys, hcovers⟩ :=
    takeKeys?_spec grammar hbefore hafter keys hfits [] line (by rw [htext]; simp) (by simp)
  rw [List.append_nil] at hstate hreached hcovers
  obtain ⟨plain, hplain, hrest⟩ := plainTokens?_spec grammar (before ++ piece) rest after
  have hstop : (before ++ piece).byteLength + rest.byteLength =
      before.byteLength + line.byteLength := by
    rw [hline]
    simp only [Text.byteLength_append]
    omega
  rw [hstop, ← hreached, List.append_assoc, ← List.append_assoc piece, ← hline, ← htext] at hplain
  refine ⟨state, plain, hstate, hplain, hkeys, ?_⟩
  have h := hcovers.append (hrest _ _)
  rwa [List.append_nil, ← hline] at h

/-- Cutting what is left of a text from the start of a line on. -/
theorem cutLines?_spec (grammar : Grammar) {text : Text} (rest : Text) :
    ∀ before keys, text = before ++ rest → before.lastLine = [] →
      (∀ key ∈ keys, key.Fits text) →
      ∃ lines, cutLines? grammar text (before.count '\n') before.byteLength keys rest.lines =
          some lines ∧
        lines.map TokenLine.text = rest.lines ∧
        (∀ line ∈ lines, ∀ token ∈ line, token.value ≠ []) ∧
        TokenLine.placedNamesAll (before.count '\n') lines =
          (takenFrom (before.count '\n') before.byteLength keys rest.lines).map
            (KeySpan.placed text) := by
  induction rest using Text.lines_induction with
  | last line hline =>
      intro before keys htext hbefore hfits
      obtain ⟨state, plain, hstate, hplain, hkeys, hcovers⟩ :=
        cutLine_spec grammar hbefore (Or.inl rfl) (by rw [htext, List.append_nil]) hfits
      rw [Text.lines_of_not_mem hline, cutLines?, hstate]
      show ∃ lines, (plainTokens? _ _ _ _).bind _ = some lines ∧ _
      rw [hplain]
      refine ⟨[state.tokens ++ plain], rfl, ?_, ?_, ?_⟩
      · rw [List.map_singleton, hcovers.text_eq]
      · intro other hother
        rw [List.mem_singleton.mp hother]
        exact hcovers.ne_nil
      · rw [TokenLine.placedNamesAll, TokenLine.placedNamesAll, hcovers.placedNames_eq, takenFrom,
          takenFrom, List.append_nil, List.append_nil]
  | more line rest hline ih =>
      intro before keys htext hbefore hfits
      obtain ⟨state, plain, hstate, hplain, hkeys, hcovers⟩ :=
        cutLine_spec grammar hbefore (Or.inr ⟨rest, rfl⟩) htext hfits
      have hcount := Text.count_append_newline before hline
      have hlength := Text.byteLength_append_newline before line
      obtain ⟨lines, hlines, htexts, hnonempty, hplaced⟩ :=
        ih (before ++ line ++ ['\n']) (afterRow (before.count '\n') keys) (by rw [htext]; simp)
          (Text.lastLine_append_newline _)
          fun key hkey => hfits key (afterRow_subset _ _ hkey)
      rw [hcount, hlength, ← hkeys] at hlines
      rw [hcount, hlength] at hplaced
      rw [Text.lines_append_newline hline, cutLines?, hstate]
      show ∃ lines, (plainTokens? _ _ _ _).bind _ = some lines ∧ _
      rw [hplain]
      show ∃ lines, (cutLines? _ _ _ _ _ _).bind _ = some lines ∧ _
      rw [hlines]
      refine ⟨(state.tokens ++ plain) :: lines, rfl, ?_, ?_, ?_⟩
      · rw [List.map_cons, htexts, hcovers.text_eq]
      · intro other hother
        rcases List.mem_cons.mp hother with rfl | hmem
        · exact hcovers.ne_nil
        · exact hnonempty other hmem
      · rw [TokenLine.placedNamesAll, hcovers.placedNames_eq, hplaced, takenFrom, List.map_append]

/-- Keys that fit a text can be cut out of it. -/
theorem splitLines?_spec (grammar : Grammar) {text : Text} {keys : List KeySpan}
    (hfits : ∀ key ∈ keys, key.Fits text) :
    ∃ lines, splitLines? text grammar keys = some lines ∧
      lines.map TokenLine.text = text.lines ∧
      (∀ line ∈ lines, ∀ token ∈ line, token.value ≠ []) ∧
      TokenLine.placedNamesAll 0 lines =
        (takenFrom 0 0 keys text.lines).map (KeySpan.placed text) :=
  cutLines?_spec grammar text [] keys rfl rfl hfits

end TokenizedDocument

end ApiLint
