import ApiLint.Proofs.Position.Offset

/-!
# What a range covers

A range is read in two ways. `Range.slice` works on bytes: within one line it cuts the line at
the bytes of the two columns, and over several lines it cuts the text at those of the two
clamped ends. `Range.toCharSpan` counts characters from the start of the text. Bytes are found
for whole characters only, so `slice_onLine` and `slice_of_line_ne` say in characters what
`slice` answers, and whenever it answers the two agree (`slice_spec`).

Where the place of a piece of a line is known, both give that piece (`slice_piece`,
`cut_piece`). A document has its own range, and no other piece of it does.
-/

namespace ApiLint

namespace CharSpan

theorem cut_middle (before piece after : Text) :
    CharSpan.cut ⟨before.length, before.length + piece.length⟩ (before ++ (piece ++ after))
      = piece := by
  rw [cut, List.drop_take, List.drop_left, Nat.add_sub_cancel_left, List.take_left]

/-- What is cut out of a text stands in it with the right number of characters before it. -/
theorem exists_eq_append_cut {span : CharSpan} {text : Text} (hle : span.start ≤ span.stop)
    (hstop : span.stop ≤ text.length) :
    ∃ before after, text = before ++ (span.cut text ++ after) ∧ before.length = span.start ∧
      before.length + (span.cut text).length = span.stop := by
  have hfront : text.take span.start ++ span.cut text = text.take span.stop := by
    obtain ⟨k, hk⟩ := Nat.exists_eq_add_of_le hle
    rw [cut, List.drop_take, hk, Nat.add_sub_cancel_left, List.take_add]
  have hbefore : (text.take span.start).length = span.start :=
    List.length_take_of_le (Nat.le_trans hle hstop)
  refine ⟨text.take span.start, text.drop span.stop, ?_, hbefore, ?_⟩
  · rw [← List.append_assoc, hfront, List.take_append_drop]
  · rw [← List.length_append, hfront, List.length_take_of_le hstop]

end CharSpan

namespace Range

/-! ## Within a line -/

theorem columnByte?_of_le {line : Text} {column : Nat} (h : column ≤ line.length) :
    columnByte? line column = some (Text.byteLength (line.take column)) := by
  rw [columnByte?]
  split
  · next hend => rw [hend, List.take_length]
  · exact Text.byteOf?_of_lt (by omega)

theorem columnByte?_of_lt {line : Text} {column : Nat} (h : line.length < column) :
    columnByte? line column = none := by
  rw [columnByte?, if_neg (by omega), Text.byteOf?_of_length_le (by omega)]

theorem slice_of_no_line {range : Range} {text : Text} (hsame : range.start.line = range.stop.line)
    (h : text.lines[range.start.line]? = none) : range.slice text = none := by
  rw [slice, if_neg (not_not.mpr hsame)]
  show (text.lines[range.start.line]?).bind _ = _
  rw [h, Option.bind_none]

/-- A range within a line has the characters between its columns, if the line has these columns
in this order. -/
theorem slice_onLine {text line : Text} {n : Nat} (h : text.lines[n]? = some line)
    (start stop : Nat) :
    (onLine n start stop).slice text =
      if start ≤ stop ∧ stop ≤ line.length then some (CharSpan.cut ⟨start, stop⟩ line)
      else none := by
  have hbytes : (onLine n start stop).slice text = (columnByte? line start).bind fun first =>
      (columnByte? line stop).bind fun last => line.bytes? first last := by
    rw [slice, if_neg (by simp [onLine])]
    show (text.lines[n]?).bind _ = _
    rw [h, Option.bind_some]
    rfl
  rw [hbytes]
  by_cases hstart : start ≤ line.length
  · rw [columnByte?_of_le hstart, Option.bind_some]
    by_cases hstop : stop ≤ line.length
    · rw [columnByte?_of_le hstop, Option.bind_some]
      by_cases hle : start ≤ stop
      · rw [Text.bytes?_take hle, if_pos ⟨hle, hstop⟩, CharSpan.cut]
      · rw [Text.bytes?_take_of_lt (by omega) (by omega), if_neg (by omega)]
    · rw [columnByte?_of_lt (Nat.lt_of_not_le hstop), Option.bind_none, if_neg (by omega)]
  · rw [columnByte?_of_lt (Nat.lt_of_not_le hstart), Option.bind_none, if_neg (by omega)]

theorem toCharSpan_onLine {text line : Text} {n start stop : Nat}
    (h : text.lines[n]? = some line) (hle : start ≤ stop) (hstop : stop ≤ line.length) :
    (onLine n start stop).toCharSpan text =
      ⟨(text.lineStart n).length + start, (text.lineStart n).length + stop⟩ := by
  have hfirst : (onLine n start stop).start.offset text = (text.lineStart n).length + start :=
    Position.offset_eq h (by omega)
  have hlast : (onLine n start stop).stop.offset text = (text.lineStart n).length + stop :=
    Position.offset_eq h hstop
  rw [toCharSpan]
  simp only [hfirst, hlast]
  rw [Nat.max_eq_right (by omega)]

/-- The characters between the offsets of two columns are those between the columns. -/
theorem cut_onLine {text line : Text} {n start stop : Nat} (h : text.lines[n]? = some line)
    (hle : start ≤ stop) (hstop : stop ≤ line.length) :
    ((onLine n start stop).toCharSpan text).cut text = CharSpan.cut ⟨start, stop⟩ line := by
  rw [toCharSpan_onLine h hle hstop, CharSpan.cut, CharSpan.cut, Text.take_lineStart_add h hstop,
    List.drop_length_add_append]

/-- Over the columns of a piece of a line lies that piece. -/
theorem slice_piece {text before piece rest : Text} {n : Nat}
    (h : text.lines[n]? = some (before ++ (piece ++ rest))) :
    (onLine n before.length (before.length + piece.length)).slice text = some piece := by
  rw [slice_onLine h, if_pos ⟨Nat.le_add_right _ _, by simp⟩, CharSpan.cut_middle]

/-- The characters that the offsets of those columns enclose are the same piece. -/
theorem cut_piece {text before piece rest : Text} {n : Nat}
    (h : text.lines[n]? = some (before ++ (piece ++ rest))) :
    ((onLine n before.length (before.length + piece.length)).toCharSpan text).cut text
      = piece := by
  rw [cut_onLine h (Nat.le_add_right _ _) (by simp), CharSpan.cut_middle]

/-! ## Over several lines -/

/-- A range over several lines has the characters between its ends as they are clamped, if any
are left after the start. -/
theorem slice_of_line_ne {range : Range} (h : range.start.line ≠ range.stop.line) (text : Text) :
    range.slice text =
      if (range.toCharSpan text).start = text.length then none
      else some ((range.toCharSpan text).cut text) := by
  obtain ⟨hle, hstop⟩ := range.toCharSpan_bounds text
  rw [slice, if_pos h]
  show (text.byteOf? (range.toCharSpan text).start).bind _ = _
  by_cases hend : (range.toCharSpan text).start = text.length
  · rw [if_pos hend, hend, Text.byteOf?_of_length_le (Nat.le_refl _), Option.bind_none]
  · rw [if_neg hend, Text.byteOf?_of_lt (by omega), Option.bind_some, Text.getD_byteOf? hstop]
    exact Text.bytes?_take hle text

/-! ## Any range -/

theorem eq_onLine {range : Range} (h : range.start.line = range.stop.line) :
    range = onLine range.start.line range.start.column range.stop.column := by
  obtain ⟨start, ⟨line, column⟩⟩ := range
  obtain rfl : start.line = line := h
  rfl

theorem cut_of_slice {range : Range} {text piece : Text} (h : range.slice text = some piece) :
    (range.toCharSpan text).cut text = piece := by
  by_cases hsame : range.start.line = range.stop.line
  · cases hline : text.lines[range.start.line]? with
    | none =>
        rw [slice_of_no_line hsame hline] at h
        cases h
    | some line =>
        rw [eq_onLine hsame, slice_onLine hline] at h
        split at h
        · next hcolumns =>
            rw [eq_onLine hsame, cut_onLine hline hcolumns.1 hcolumns.2]
            exact Option.some.inj h
        · cases h
  · rw [slice_of_line_ne hsame] at h
    split at h
    · cases h
    · exact Option.some.inj h

theorem slice_eq_none_iff {range : Range} {text : Text} :
    range.slice text = none ↔
      (range.start.line = range.stop.line ∧
        (text.lines.length ≤ range.start.line ∨
          ∃ line, text.lines[range.start.line]? = some line ∧
            (line.length < range.start.column ∨ line.length < range.stop.column ∨
              range.stop.column < range.start.column))) ∨
      (range.start.line ≠ range.stop.line ∧ (range.toCharSpan text).start = text.length) := by
  by_cases hsame : range.start.line = range.stop.line
  · cases hline : text.lines[range.start.line]? with
    | none =>
        have hpast : text.lines.length ≤ range.start.line := List.getElem?_eq_none_iff.mp hline
        exact iff_of_true (slice_of_no_line hsame hline) (Or.inl ⟨hsame, Or.inl hpast⟩)
    | some line =>
        have hexists : range.start.line < text.lines.length :=
          (List.getElem?_eq_some_iff.mp hline).1
        have hslice : range.slice text = none ↔
            ¬ (range.start.column ≤ range.stop.column ∧ range.stop.column ≤ line.length) := by
          rw [eq_onLine hsame, slice_onLine hline]
          simp [onLine]
        rw [hslice]
        simp only [hsame, Option.some.injEq, exists_eq_left', true_and, ne_eq, not_true_eq_false,
          false_and, or_false]
        omega
  · rw [slice_of_line_ne hsame]
    simp [hsame]

theorem isBoundary_of_columnByte? {line : Text} {column byte : Nat}
    (h : columnByte? line column = some byte) : line.IsBoundary byte := by
  rcases Nat.lt_or_ge line.length column with hlt | hle
  · rw [columnByte?_of_lt hlt] at h
    cases h
  · rw [columnByte?_of_le hle] at h
    exact Option.some.inj h ▸ line.isBoundary_byteLength_take column

/-- What a range covers, when it covers nothing, and that no byte it is cut at lies inside a
character. -/
theorem slice_spec (range : Range) (text : Text) :
    (∀ piece, range.slice text = some piece →
      piece = (range.toCharSpan text).cut text ∧
        ∃ before after, text = before ++ (piece ++ after) ∧
          before.length = (range.toCharSpan text).start ∧
          before.length + piece.length = (range.toCharSpan text).stop) ∧
    (range.slice text = none ↔
      (range.start.line = range.stop.line ∧
        (text.lines.length ≤ range.start.line ∨
          ∃ line, text.lines[range.start.line]? = some line ∧
            (line.length < range.start.column ∨ line.length < range.stop.column ∨
              range.stop.column < range.start.column))) ∨
      (range.start.line ≠ range.stop.line ∧ (range.toCharSpan text).start = text.length)) ∧
    (∀ (line : Text) column byte, columnByte? line column = some byte → line.IsBoundary byte) ∧
    ∀ n byte, text.byteOf? n = some byte → text.IsBoundary byte := by
  refine ⟨?_, slice_eq_none_iff, fun _ _ _ => isBoundary_of_columnByte?,
    fun _ _ => Text.isBoundary_of_byteOf?⟩
  intro piece h
  obtain rfl := cut_of_slice h
  obtain ⟨hle, hstop⟩ := range.toCharSpan_bounds text
  exact ⟨rfl, CharSpan.exists_eq_append_cut hle hstop⟩

/-- Accented letters on either side of a line break, and one of them on its own. -/
theorem slice_of_accented_lines :
    let text : Text := "é: 1\nà: ü\n".toList
    let across : Range := ⟨⟨0, 3⟩, ⟨1, 1⟩⟩
    let within : Range := .onLine 1 3 4
    across.slice text = some "1\nà".toList ∧ (across.toCharSpan text).cut text = "1\nà".toList ∧
      within.slice text = some "ü".toList ∧ (within.toCharSpan text).cut text = "ü".toList ∧
      (Range.onLine 1 4 3).slice text = none ∧ Text.IsBoundary "à: ü".toList 4 := by
  intro text across within
  obtain ⟨hacross, _, hcolumn, _⟩ := slice_spec across text
  obtain ⟨hwithin, _⟩ := slice_spec within text
  obtain ⟨_, hnone, _⟩ := slice_spec (.onLine 1 4 3) text
  have hover : across.slice text = some "1\nà".toList := by decide
  have hon : within.slice text = some "ü".toList := by decide
  have hline : text.lines[1]? = some "à: ü".toList := by decide
  exact ⟨hover, (hacross _ hover).1.symm, hon, (hwithin _ hon).1.symm,
    hnone.mpr (Or.inl ⟨rfl, Or.inr ⟨_, hline, Or.inr (Or.inr (by decide))⟩⟩),
    hcolumn _ 3 4 (by decide)⟩

/-! ## The whole document -/

theorem wholeDocument_stop (text : Text) : (wholeDocument text).stop = .after text := by
  show (⟨text.lines.length - 1, _⟩ : Position) = ⟨text.count '\n', _⟩
  rw [Text.length_lines, Nat.add_sub_cancel]

theorem wholeDocument_of_not_mem {text : Text} (h : '\n' ∉ text) :
    wholeDocument text = onLine 0 0 text.length := by
  rw [wholeDocument, Text.lines_of_not_mem h, Text.lastLine_of_not_mem h]
  rfl

theorem toCharSpan_wholeDocument (text : Text) :
    (wholeDocument text).toCharSpan text = ⟨0, text.length⟩ := by
  have hstart : (wholeDocument text).start.offset text = 0 := Position.offset_origin text
  rw [toCharSpan, hstart, wholeDocument_stop, Position.offset_after, Nat.zero_max]

/-- The whole document is under its range, whether that has one line or more. -/
theorem slice_wholeDocument (text : Text) : (wholeDocument text).slice text = some text := by
  by_cases hmem : '\n' ∈ text
  · have hlines : (wholeDocument text).start.line ≠ (wholeDocument text).stop.line := by
      rw [wholeDocument_stop]
      exact Nat.ne_of_lt (List.count_pos_iff.mpr hmem)
    have hsome : (0 : Nat) ≠ text.length := Nat.ne_of_lt (List.length_pos_of_mem hmem)
    rw [slice_of_line_ne hlines, toCharSpan_wholeDocument, if_neg hsome, CharSpan.cut,
      List.take_length, List.drop_zero]
  · have hline : text.lines[0]? = some ([] ++ (text ++ [])) := by
      rw [Text.lines_of_not_mem hmem, List.append_nil]
      rfl
    have hpiece := slice_piece hline
    rwa [List.length_nil, Nat.zero_add, ← wholeDocument_of_not_mem hmem] at hpiece

/-- The range of a document covers all of its characters, and the document has no position
after the end of the range. -/
theorem wholeDocument_spec (text : Text) :
    (wholeDocument text).slice text = some text ∧
      (wholeDocument text).toCharSpan text = ⟨0, text.length⟩ ∧
      IsGreatest {p : Position | p.ExistsIn text} (wholeDocument text).stop := by
  refine ⟨slice_wholeDocument text, toCharSpan_wholeDocument text, ?_⟩
  rw [wholeDocument_stop]
  exact ⟨Position.after_existsIn text, fun _ hp => hp.le_after⟩

/-- A piece of a line is the whole document only if it is all of the text. -/
theorem onLine_piece_eq_wholeDocument_iff {text before piece rest : Text} {n : Nat}
    (h : text.lines[n]? = some (before ++ (piece ++ rest))) :
    onLine n before.length (before.length + piece.length) = wholeDocument text ↔ piece = text := by
  constructor
  · intro hrange
    have hslice := slice_piece h
    rw [hrange, slice_wholeDocument] at hslice
    exact (Option.some.inj hslice).symm
  · rintro rfl
    obtain ⟨after, hpiece⟩ := Text.eq_lineStart_append h
    have hlength := congrArg List.length hpiece
    simp only [List.length_append] at hlength
    have hbefore : before.length = 0 := by omega
    have hfront : (Text.lineStart piece n).length = 0 := by omega
    have hcount := Text.count_lineStart h
    rw [List.length_eq_zero_iff.mp hfront] at hcount
    have hmem : '\n' ∉ piece := fun hmem =>
      Text.not_mem_of_mem_lines (List.mem_of_getElem? h) (by simp [hmem])
    rw [wholeDocument_of_not_mem hmem, hbefore, Nat.zero_add, ← hcount]
    rfl

end Range

end ApiLint
