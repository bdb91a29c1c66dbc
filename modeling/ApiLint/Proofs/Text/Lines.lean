import ApiLint.Text.Lines

/-!
# A text line by line

`lines_induction` reads a text the way everything that numbers lines does: the last
line, or a line, its line feed and the rest. From it comes `eq_lineStart_append`,
which says what stands before line `n`: the lines before it, each with its line feed.

`lastLine` is the same splitting read from the back. Appending characters that are
no line feeds lengthens the last line, and a line feed starts it anew. It is the last of
the lines (`getLast?_lines`), so the text ends with it (`lineStart_append_lastLine`).
-/

namespace ApiLint.Text

/-- Induction over the lines of a text. -/
theorem lines_induction {motive : Text → Prop}
    (last : ∀ line, '\n' ∉ line → motive line)
    (more : ∀ line rest, '\n' ∉ line → motive rest → motive (line ++ '\n' :: rest))
    (text : Text) : motive text := by
  -- A line may be begun already; what was read of it is held in `line`.
  suffices h : ∀ line, '\n' ∉ line → motive (line ++ text) from h [] (by simp)
  induction text with
  | nil =>
      intro line hline
      rw [List.append_nil]
      exact last line hline
  | cons c rest ih =>
      intro line hline
      by_cases hc : c = '\n'
      · subst hc
        exact more line rest hline (ih [] (by simp))
      · rw [show line ++ c :: rest = (line ++ [c]) ++ rest by simp]
        refine ih (line ++ [c]) ?_
        rw [List.mem_append, not_or]
        exact ⟨hline, by simpa using Ne.symm hc⟩

theorem split_of_not_mem {sep : Char} {piece : Text} (h : sep ∉ piece) :
    split sep piece = [piece] := by
  induction piece with
  | nil => rfl
  | cons c rest ih =>
      rw [List.mem_cons, not_or] at h
      rw [split, ih h.2]
      exact if_neg (Ne.symm h.1)

/-- A text falls apart at a separator, and either side on its own. -/
theorem split_append_cons (sep : Char) (before rest : Text) :
    split sep (before ++ sep :: rest) = split sep before ++ split sep rest := by
  induction before with
  | nil =>
      rw [List.nil_append, split]
      cases hrest : split sep rest with
      | nil => exact absurd hrest (split_ne_nil sep rest)
      | cons piece more => simp [split, hrest]
  | cons c before ih =>
      rw [List.cons_append, split, split, ih]
      cases hbefore : split sep before with
      | nil => exact absurd hbefore (split_ne_nil sep before)
      | cons piece more =>
          by_cases hc : c = sep
          · simp [hc]
          · simp [hc]

theorem split_cons_self (sep : Char) (rest : Text) :
    split sep (sep :: rest) = [] :: split sep rest :=
  split_append_cons sep [] rest

theorem eq_of_split_eq_singleton {sep : Char} {text piece : Text}
    (h : split sep text = [piece]) : text = piece ∧ sep ∉ text := by
  have hjoin := join_split sep text
  rw [h] at hjoin
  refine ⟨hjoin.symm, fun hmem => ?_⟩
  -- A separator would leave a piece on either side.
  obtain ⟨before, after, rfl⟩ := List.append_of_mem hmem
  have hlength := congrArg List.length h
  rw [split_append_cons, List.length_append] at hlength
  have hbefore := List.length_pos_iff.mpr (split_ne_nil sep before)
  have hafter := List.length_pos_iff.mpr (split_ne_nil sep after)
  rw [List.length_singleton] at hlength
  omega

theorem lines_of_not_mem {line : Text} (h : '\n' ∉ line) : lines line = [line] :=
  split_of_not_mem h

theorem lines_append_newline {line : Text} (h : '\n' ∉ line) (rest : Text) :
    lines (line ++ '\n' :: rest) = line :: lines rest := by
  rw [lines, split_append_cons, split_of_not_mem h]
  rfl

/-- Rows that are each closed by a line feed are the lines of what they make, but for an empty last
one. -/
theorem lines_flatMap_append_newline {rows : List Text} (h : ∀ row ∈ rows, '\n' ∉ row) :
    lines (rows.flatMap fun row => row ++ ['\n']) = rows ++ [[]] := by
  induction rows with
  | nil => rfl
  | cons row rows ih =>
      obtain ⟨hrow, hrows⟩ := List.forall_mem_cons.mp h
      rw [List.flatMap_cons, List.append_assoc, List.singleton_append, lines_append_newline hrow,
        ih hrows]
      rfl

theorem not_mem_of_mem_lines {text line : Text} (h : line ∈ text.lines) : '\n' ∉ line := by
  induction text using lines_induction with
  | last only honly =>
      rw [lines_of_not_mem honly] at h
      rw [List.mem_singleton.mp h]
      exact honly
  | more first rest hfirst ih =>
      rw [lines_append_newline hfirst] at h
      rcases List.mem_cons.mp h with rfl | hmem
      · exact hfirst
      · exact ih hmem

/-- There is one line more than there are line feeds. -/
theorem length_lines (text : Text) : text.lines.length = text.count '\n' + 1 := by
  induction text using lines_induction with
  | last only honly => rw [lines_of_not_mem honly, List.count_eq_zero_of_not_mem honly]; rfl
  | more first rest hfirst ih =>
      rw [lines_append_newline hfirst, List.length_cons, ih, List.count_append,
        List.count_eq_zero_of_not_mem hfirst, List.count_cons_self, Nat.zero_add]

theorem count_append_newline (before : Text) {line : Text} (h : '\n' ∉ line) :
    (before ++ line ++ ['\n']).count '\n' = before.count '\n' + 1 := by
  rw [List.count_append, List.count_append, List.count_eq_zero_of_not_mem h]
  rfl

theorem lineStart_zero (text : Text) : lineStart text 0 = [] := rfl

theorem lineStart_succ {line : Text} (h : '\n' ∉ line) (rest : Text) (n : Nat) :
    lineStart (line ++ '\n' :: rest) (n + 1) = line ++ '\n' :: lineStart rest n := by
  rw [lineStart, lines_append_newline h, List.take_succ_cons, List.flatMap_cons]
  simp [lineStart]

/-- A line stands between what precedes it and, perhaps, more. -/
theorem eq_lineStart_append {text line : Text} {n : Nat} (h : text.lines[n]? = some line) :
    ∃ after, text = lineStart text n ++ (line ++ after) := by
  induction text using lines_induction generalizing n with
  | last only honly =>
      rw [lines_of_not_mem honly] at h
      cases n with
      | zero =>
          rw [List.getElem?_cons_zero] at h
          injection h with h
          exact ⟨[], by rw [lineStart_zero, List.nil_append, List.append_nil, h]⟩
      | succ n => simp at h
  | more first rest hfirst ih =>
      rw [lines_append_newline hfirst] at h
      cases n with
      | zero =>
          rw [List.getElem?_cons_zero] at h
          injection h with h
          exact ⟨'\n' :: rest, by rw [lineStart_zero, List.nil_append, h]⟩
      | succ n =>
          rw [List.getElem?_cons_succ] at h
          obtain ⟨after, hafter⟩ := ih h
          refine ⟨after, ?_⟩
          rw [lineStart_succ hfirst, List.append_assoc, List.cons_append, ← hafter]

/-- So many columns into a line stand what precedes the line and those columns. -/
theorem take_lineStart_add {text line : Text} {n column : Nat} (h : text.lines[n]? = some line)
    (hcolumn : column ≤ line.length) :
    text.take ((lineStart text n).length + column) = lineStart text n ++ line.take column := by
  obtain ⟨after, hafter⟩ := eq_lineStart_append h
  calc text.take ((lineStart text n).length + column)
    _ = (lineStart text n ++ (line ++ after)).take ((lineStart text n).length + column) :=
        congrArg (List.take _) hafter
    _ = lineStart text n ++ line.take column := by
        rw [List.take_length_add_append, List.take_append_of_le_length hcolumn]

/-- As many line feeds stand before a line as its number says. -/
theorem count_lineStart {text line : Text} {n : Nat} (h : text.lines[n]? = some line) :
    (lineStart text n).count '\n' = n := by
  induction text using lines_induction generalizing n with
  | last only honly =>
      rw [lines_of_not_mem honly] at h
      cases n with
      | zero => rfl
      | succ n => simp at h
  | more first rest hfirst ih =>
      cases n with
      | zero => rfl
      | succ n =>
          rw [lines_append_newline hfirst, List.getElem?_cons_succ] at h
          rw [lineStart_succ hfirst, List.count_append, List.count_eq_zero_of_not_mem hfirst,
            List.count_cons_self, ih h, Nat.zero_add]

/-- A front without line feeds of what is left of a text lies on the line it is on. -/
theorem exists_append_of_not_mem {front back line after : Text}
    (h : front ++ back = line ++ after) (hfront : '\n' ∉ front)
    (hafter : after = [] ∨ ∃ rest, after = '\n' :: rest) :
    ∃ more, line = front ++ more ∧ back = more ++ after := by
  rcases List.append_eq_append_iff.mp h with ⟨more, hline, hback⟩ | ⟨more, hsplit, hrest⟩
  · exact ⟨more, hline, hback⟩
  · rcases more with _ | ⟨c, more⟩
    · exact ⟨[], by simpa using hsplit.symm, by simpa using hrest.symm⟩
    · rcases hafter with rfl | ⟨rest, rfl⟩
      · cases hrest
      · injection hrest with hc
        rw [hsplit, ← hc] at hfront
        exact absurd (by simp) hfront

/-! ## The last line -/

theorem lastLine_append_of_not_mem (before : Text) {line : Text} (h : '\n' ∉ line) :
    lastLine (before ++ line) = lastLine before ++ line := by
  have hall : ∀ c ∈ line.reverse, (c != '\n') = true := by
    intro c hc
    rw [bne_iff_ne]
    intro heq
    exact h (heq ▸ List.mem_reverse.mp hc)
  rw [lastLine, List.reverse_append, List.takeWhile_append_of_pos hall, List.reverse_append,
    List.reverse_reverse, lastLine]

theorem lastLine_append_newline (before : Text) : lastLine (before ++ ['\n']) = [] := by
  rw [lastLine, List.reverse_append]
  rfl

theorem lastLine_of_not_mem {line : Text} (h : '\n' ∉ line) : lastLine line = line :=
  lastLine_append_of_not_mem [] h

/-- What precedes a line feed plays no part in the last line. -/
theorem lastLine_append_cons_newline (before rest : Text) :
    lastLine (before ++ '\n' :: rest) = lastLine rest := by
  have hstop : List.takeWhile (· != '\n') ('\n' :: before.reverse) = [] := rfl
  rw [lastLine, lastLine, List.reverse_append, List.reverse_cons, List.append_assoc,
    List.singleton_append, List.takeWhile_append, hstop, List.append_nil]
  split
  · next hall => rw [(List.takeWhile_sublist _).eq_of_length hall]
  · rfl

/-- The last of the lines is the last line read from the back. -/
theorem getLast?_lines (text : Text) : text.lines.getLast? = some text.lastLine := by
  induction text using lines_induction with
  | last only honly => rw [lines_of_not_mem honly, lastLine_of_not_mem honly]; rfl
  | more first rest hfirst ih =>
      rw [lines_append_newline hfirst, lastLine_append_cons_newline, List.getLast?_cons, ih,
        Option.getD_some]

theorem getElem?_lines_count (text : Text) :
    text.lines[text.count '\n']? = some text.lastLine := by
  have h := getLast?_lines text
  rwa [List.getLast?_eq_getElem?, length_lines, Nat.add_sub_cancel] at h

theorem lineStart_append_lastLine (text : Text) :
    lineStart text (text.count '\n') ++ lastLine text = text := by
  induction text using lines_induction with
  | last only honly =>
      rw [List.count_eq_zero_of_not_mem honly, lineStart_zero, lastLine_of_not_mem honly]
      rfl
  | more first rest hfirst ih =>
      rw [lastLine_append_cons_newline, List.count_append, List.count_eq_zero_of_not_mem hfirst,
        List.count_cons_self, Nat.zero_add, lineStart_succ hfirst, List.append_assoc,
        List.cons_append, ih]

theorem lastLine_lineStart (text : Text) (n : Nat) : lastLine (lineStart text n) = [] := by
  rw [lineStart]
  rcases List.eq_nil_or_concat (text.lines.take n) with hnil | ⟨front, last, hconcat⟩
  · rw [hnil]
    rfl
  · rw [hconcat, List.concat_eq_append, List.flatMap_append, List.flatMap_singleton,
      ← List.append_assoc, lastLine_append_newline]

/-- Whatever follows a text, its last line stays where it is and can only grow. -/
theorem exists_getElem?_lines_append (before after : Text) :
    ∃ more, (before ++ after).lines[before.count '\n']? = some (before.lastLine ++ more) := by
  induction before using lines_induction with
  | last only honly =>
      rw [List.count_eq_zero_of_not_mem honly, lastLine_of_not_mem honly]
      induction after using lines_induction with
      | last rest hrest =>
          refine ⟨rest, ?_⟩
          rw [lines_of_not_mem (by simp [honly, hrest])]
          rfl
      | more line rest hline _ =>
          refine ⟨line, ?_⟩
          rw [← List.append_assoc, lines_append_newline (by simp [honly, hline])]
          rfl
  | more first rest hfirst ih =>
      obtain ⟨more, hmore⟩ := ih
      refine ⟨more, ?_⟩
      rw [lastLine_append_cons_newline, List.count_append, List.count_eq_zero_of_not_mem hfirst,
        List.count_cons_self, Nat.zero_add, List.append_assoc, List.cons_append,
        lines_append_newline hfirst, List.getElem?_cons_succ, hmore]

/-! ## The first line -/

/-- `first` is what a text has before its first line break: a line feed, or a carriage return and a
line feed. Without a line break it is all of the text. -/
inductive IsFirstLine : Text → Text → Prop where
  | only {first : Text} : '\n' ∉ first → IsFirstLine first first
  | feed {first : Text} (rest : Text) : '\n' ∉ first → first.getLast? ≠ some '\r' →
      IsFirstLine first (first ++ '\n' :: rest)
  | returned {first : Text} (rest : Text) : '\n' ∉ first →
      IsFirstLine first (first ++ '\r' :: '\n' :: rest)

theorem IsFirstLine.newline_not_mem {first text : Text} (h : IsFirstLine first text) :
    '\n' ∉ first := by
  cases h with
  | only hfirst => exact hfirst
  | feed rest hfirst => exact hfirst
  | returned rest hfirst => exact hfirst

theorem takeWhile_append_of_not_mem {line : Text} (h : '\n' ∉ line) (rest : Text) :
    (line ++ rest).takeWhile (· != '\n') = line ++ rest.takeWhile (· != '\n') := by
  refine List.takeWhile_append_of_pos fun c hc => ?_
  rw [bne_iff_ne]
  rintro rfl
  exact h hc

theorem isFirstLine_firstLine (text : Text) : IsFirstLine (firstLine text) text := by
  induction text using lines_induction with
  | last only honly =>
      have hall : only.takeWhile (· != '\n') = only := by
        simpa using takeWhile_append_of_not_mem honly []
      rw [firstLine, hall, if_neg fun h => Nat.lt_irrefl _ h.1]
      exact .only honly
  | more line rest hline _ =>
      have hfront : (line ++ '\n' :: rest).takeWhile (· != '\n') = line := by
        rw [takeWhile_append_of_not_mem hline]
        exact List.append_nil line
      rw [firstLine, hfront]
      by_cases hreturn : line.getLast? = some '\r'
      · rw [if_pos ⟨by simp, hreturn⟩]
        obtain ⟨front, rfl⟩ := List.getLast?_eq_some_iff.mp hreturn
        rw [List.dropLast_concat, List.append_assoc, List.singleton_append]
        exact .returned rest fun hmem => hline (List.mem_append_left _ hmem)
      · rw [if_neg fun h => hreturn h.2]
        exact .feed rest hline hreturn

end ApiLint.Text
