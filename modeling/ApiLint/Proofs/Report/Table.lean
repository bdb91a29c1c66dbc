import Mathlib
import ApiLint.Proofs.Text.Lines
import ApiLint.Report.Table

/-!
# What stands in a table

A column is wide enough for all its cells, so every cell is filled up to exactly the width of its
column (`columns_fillTo`), and a line of the table can be read back column by column knowing the
widths alone (`cellsOfLine_join`). That is what `ShowsRow` says of the lines of a row: each line
holds the line of the same number of each cell and nothing else, and no cell has more lines than
the row. The bars are no help in reading, as a message may hold one.

No line of a table has a line feed, so the lines of the text are the lines that were drawn
(`exists_lines_table`): a heading, and one row after the other.
-/

namespace ApiLint

namespace Text

theorem columns_append (text more : Text) :
    columns (text ++ more) = columns text + columns more := by
  induction text with
  | nil => exact (Nat.zero_add _).symm
  | cons c text ih => rw [List.cons_append, columns, ih, columns, Nat.add_assoc]

theorem columns_replicate_blank (n : Nat) : columns (List.replicate n ' ') = n := by
  induction n with
  | zero => rfl
  | succ n ih =>
      rw [List.replicate_succ, columns, ih, show columnsOf ' ' = 1 from rfl, Nat.add_comm]

/-- Pieces without the separator are found again between the separators. -/
theorem split_join {sep : Char} {pieces : List Text} (hne : pieces ≠ [])
    (h : ∀ piece ∈ pieces, sep ∉ piece) : split sep (join sep pieces) = pieces := by
  induction pieces with
  | nil => exact absurd rfl hne
  | cons piece more ih =>
      have hpiece := h piece List.mem_cons_self
      cases more with
      | nil => exact split_of_not_mem hpiece
      | cons next more =>
          have hmore := ih (List.cons_ne_nil next more) fun other hother =>
            h other (List.mem_cons_of_mem _ hother)
          rw [join, split_append_cons, split_of_not_mem hpiece, hmore]
          rfl

theorem not_mem_join {c sep : Char} {pieces : List Text} (hsep : c ≠ sep)
    (h : ∀ piece ∈ pieces, c ∉ piece) : c ∉ join sep pieces := by
  induction pieces with
  | nil => exact List.not_mem_nil
  | cons piece more ih =>
      have hpiece := h piece List.mem_cons_self
      cases more with
      | nil => exact hpiece
      | cons next more =>
          have hmore := ih fun other hother => h other (List.mem_cons_of_mem _ hother)
          rw [join, List.mem_append, List.mem_cons, not_or, not_or]
          exact ⟨hpiece, hsep, hmore⟩

end Text

namespace Report

theorem le_foldl_max {l : List Nat} {n m : Nat} (h : n ≤ m ∨ n ∈ l) : n ≤ l.foldl max m := by
  induction l generalizing m with
  | nil => exact h.resolve_right List.not_mem_nil
  | cons k l ih =>
      rw [List.foldl_cons]
      refine ih ?_
      rcases h with hle | hmem
      · exact Or.inl (hle.trans (Nat.le_max_left m k))
      · rcases List.mem_cons.mp hmem with rfl | hmem
        · exact Or.inl (Nat.le_max_right m n)
        · exact Or.inr hmem

/-! ## Reading a line -/

/-- As much of a text as goes into some columns, and what is left. -/
def takeColumns (width : Nat) : Text → Text × Text
  | [] => ([], [])
  | c :: rest =>
    if columnsOf c ≤ width then
      let (taken, left) := takeColumns (width - columnsOf c) rest
      (c :: taken, left)
    else ([], c :: rest)

/-- The contents of the cells of a line, by the widths of the columns. -/
def cellsOfLine : List Nat → Text → Option (List Text)
  | [], ['│'] => some []
  | width :: widths, '│' :: ' ' :: line =>
    match takeColumns width line with
    | (content, ' ' :: rest) => (cellsOfLine widths rest).map (content :: ·)
    | _ => none
  | _, _ => none

theorem takeColumns_append {content : Text} {width : Nat} (hwidth : content.columns = width)
    {c : Char} (hc : 0 < columnsOf c) (rest : Text) :
    takeColumns width (content ++ c :: rest) = (content, c :: rest) := by
  induction content generalizing width with
  | nil =>
      subst hwidth
      exact if_neg (Nat.not_le.mpr hc)
  | cons d content ih =>
      subst hwidth
      rw [List.cons_append, takeColumns, Text.columns, if_pos (Nat.le_add_right _ _),
        Nat.add_sub_cancel_left, ih rfl]

/-- Cells that are as wide as their columns are found again. -/
theorem cellsOfLine_join {cells : List (Text × Nat)} (hne : cells ≠ [])
    (h : ∀ cell ∈ cells, cell.1.columns = cell.2) :
    cellsOfLine (cells.map Prod.snd)
        ('│' :: Text.join '│' (cells.map fun cell => ' ' :: cell.1 ++ [' ']) ++ ['│']) =
      some (cells.map Prod.fst) := by
  induction cells with
  | nil => exact absurd rfl hne
  | cons cell more ih =>
      have hcell := h cell List.mem_cons_self
      -- One cell and the line after it; the last cell is followed by the bar alone.
      have hread : ∀ rest contents, cellsOfLine (more.map Prod.snd) rest = some contents →
          cellsOfLine (cell.2 :: more.map Prod.snd) ('│' :: ' ' :: (cell.1 ++ ' ' :: rest)) =
            some (cell.1 :: contents) := by
        intro rest contents hrest
        rw [cellsOfLine, takeColumns_append hcell (by decide)]
        exact congrArg (Option.map (cell.1 :: ·)) hrest
      cases more with
      | nil =>
          have hline := hread ['│'] [] rfl
          simpa [Text.join] using hline
      | cons next more =>
          have hmore := ih (List.cons_ne_nil next more) fun other hother =>
            h other (List.mem_cons_of_mem _ hother)
          have hline := hread _ _ hmore
          simpa [Text.join] using hline

/-- A bar within a cell is told from one between cells. -/
example : cellsOfLine [1, 3] "│ a │ b│c │".toList = some ["a".toList, "b│c".toList] := by
  decide +kernel

/-! ## Rows -/

theorem cellsOf_eq (diagnostic : Diagnostic) :
    let start := diagnostic.range.start
    let stop := diagnostic.range.stop
    cellsOf diagnostic = [diagnostic.filePath.shown,
      s!"{start.line + 1}:{start.column + 1}-{stop.line + 1}:{stop.column + 1}", "Error",
      diagnostic.message] := by
  simp only [cellsOf, Range.display, Position.display, toString, String.append_assoc]
  rfl

/-- The lines of a row show some cells: line by line, each in its column, and to their last
line. -/
structure ShowsRow (widths : List Nat) (cells : Cells) (block : List Text) : Prop where
  ne_nil : block ≠ []
  length_le : ∀ cell ∈ cells, (Text.lines cell.toList).length ≤ block.length
  cellsOfLine_eq : ∀ (n : Nat) (line : Text), block[n]? = some line → cellsOfLine widths line =
    some ((cells.zip widths).map fun (cell, width) =>
      let content := (Text.lines cell.toList)[n]?.getD []
      content ++ List.replicate (width - content.columns) ' ')

theorem columns_fillTo {width : Nat} {line : Text} (h : line.columns ≤ width) :
    (fillTo width line).columns = width := by
  rw [fillTo, Text.columns_append, Text.columns_replicate_blank]
  omega

theorem columns_le_cellWidth (cell : String) (n : Nat) :
    ((cellLines cell)[n]?.getD []).columns ≤ cellWidth cell := by
  cases hline : (cellLines cell)[n]? with
  | none => exact Nat.zero_le _
  | some line =>
      exact le_foldl_max (Or.inr (List.mem_map_of_mem (List.mem_of_getElem? hline)))

/-- What a line of a row holds for each column, with the width of the column. -/
def filledCells (widths : List Nat) (cells : Cells) (n : Nat) : List (Text × Nat) :=
  (cells.zip widths).map fun (cell, width) => (fillTo width ((cellLines cell)[n]?.getD []), width)

theorem rowLines_eq (widths : List Nat) (cells : Cells) :
    rowLines widths cells =
      (List.range (((cells.map cellLines).map List.length).foldl max 1)).map fun n =>
        '│' :: Text.join '│' ((filledCells widths cells n).map fun cell => ' ' :: cell.1 ++ [' '])
          ++ ['│'] := by
  simp only [rowLines, filledCells, List.zip_map_left, List.map_map]
  rfl

theorem length_rowLines (widths : List Nat) (cells : Cells) :
    (rowLines widths cells).length = ((cells.map cellLines).map List.length).foldl max 1 := by
  rw [rowLines_eq, List.length_map, List.length_range]

theorem showsRow_rowLines {widths : List Nat} {cells : Cells} (hne : cells ≠ [])
    (h : List.Forall₂ (fun cell width => cellWidth cell ≤ width) cells widths) :
    ShowsRow widths cells (rowLines widths cells) where
  ne_nil := by
    rw [← List.length_pos_iff, length_rowLines]
    exact le_foldl_max (Or.inl le_rfl)
  length_le := by
    intro cell hcell
    rw [length_rowLines]
    exact le_foldl_max (Or.inr (List.mem_map_of_mem (List.mem_map_of_mem hcell)))
  cellsOfLine_eq := by
    intro n line hline
    rw [rowLines_eq, List.getElem?_map] at hline
    obtain ⟨m, hm, rfl⟩ := Option.map_eq_some_iff.mp hline
    obtain ⟨hlt, hm⟩ := List.getElem?_eq_some_iff.mp hm
    obtain rfl : n = m := (List.getElem_range hlt).symm.trans hm
    have hwidths : (filledCells widths cells n).map Prod.snd = widths := by
      rw [filledCells, List.map_map]
      exact List.map_snd_zip h.length_eq.ge
    have hcells : ∀ cell ∈ filledCells widths cells n, cell.1.columns = cell.2 := by
      intro entry hentry
      obtain ⟨⟨cell, width⟩, hmem, rfl⟩ := List.mem_map.mp hentry
      exact columns_fillTo ((columns_le_cellWidth cell n).trans (List.forall₂_zip h hmem))
    have hfilled : filledCells widths cells n ≠ [] := by
      rw [← List.length_pos_iff, filledCells, List.length_map, List.length_zip, ← h.length_eq,
        Nat.min_self]
      exact List.length_pos_iff.mpr hne
    have hread := cellsOfLine_join hfilled hcells
    rw [hwidths] at hread
    rw [hread, filledCells, List.map_map]
    rfl

/-! ## Tables -/

/-- Every column is as wide as the cells of the headings and of all rows. -/
theorem cellWidth_le_columnWidths {rows : List Cells} {headings cells : Cells}
    (hlength : cells.length = headings.length) (h : cells = headings ∨ cells ∈ rows) :
    List.Forall₂ (fun cell width => cellWidth cell ≤ width) cells (columnWidths rows headings) := by
  rw [List.forall₂_iff_get]
  refine ⟨by simp [columnWidths, hlength], fun n hcell hwidth => ?_⟩
  have hheading : n < headings.length := hlength ▸ hcell
  simp only [List.get_eq_getElem, columnWidths, List.getElem_map, List.getElem_zipIdx,
    Nat.zero_add]
  refine le_foldl_max ?_
  rcases h with rfl | hmem
  · exact Or.inl le_rfl
  · refine Or.inr (List.mem_map.mpr ⟨cells, hmem, ?_⟩)
    rw [List.getElem?_eq_getElem hcell, Option.getD_some]

theorem showsRow_columnWidths {rows : List Cells} {cells : Cells}
    (hlength : cells.length = headings.length) (h : cells = headings ∨ cells ∈ rows) :
    ShowsRow (columnWidths rows headings) cells (rowLines (columnWidths rows headings) cells) := by
  have hne : cells ≠ [] := by
    rintro rfl
    cases hlength
  exact showsRow_rowLines hne (cellWidth_le_columnWidths hlength h)

theorem newline_not_mem_rule {left cross right : Char} (widths : List Nat) (hleft : '\n' ≠ left)
    (hcross : '\n' ≠ cross) (hright : '\n' ≠ right) : '\n' ∉ rule left cross right widths := by
  have hjoin : '\n' ∉ Text.join cross (widths.map fun width => List.replicate (width + 2) '─') := by
    refine Text.not_mem_join hcross fun piece hpiece => ?_
    obtain ⟨width, _, rfl⟩ := List.mem_map.mp hpiece
    exact fun hmem => absurd (List.eq_of_mem_replicate hmem) (by decide)
  rw [rule, List.mem_append, List.mem_cons, List.mem_singleton, not_or, not_or]
  exact ⟨⟨hleft, hjoin⟩, hright⟩

theorem newline_not_mem_fillTo {cell : String} (width n : Nat) :
    '\n' ∉ fillTo width ((cellLines cell)[n]?.getD []) := by
  rw [fillTo, List.mem_append, not_or]
  refine ⟨?_, fun hmem => absurd (List.eq_of_mem_replicate hmem) (by decide)⟩
  cases hline : (cellLines cell)[n]? with
  | none => exact List.not_mem_nil
  | some line => exact Text.not_mem_of_mem_lines (List.mem_of_getElem? hline)

theorem newline_not_mem_rowLines {widths : List Nat} {cells : Cells} {line : Text}
    (h : line ∈ rowLines widths cells) : '\n' ∉ line := by
  rw [rowLines_eq] at h
  obtain ⟨n, _, rfl⟩ := List.mem_map.mp h
  have hjoin : '\n' ∉ Text.join '│'
      ((filledCells widths cells n).map fun cell => ' ' :: cell.1 ++ [' ']) := by
    refine Text.not_mem_join (by decide) fun piece hpiece => ?_
    obtain ⟨entry, hentry, rfl⟩ := List.mem_map.mp hpiece
    obtain ⟨⟨cell, width⟩, _, rfl⟩ := List.mem_map.mp hentry
    simpa using newline_not_mem_fillTo width n
  simpa using hjoin

theorem newline_not_mem_tableLines {rows : List Cells} {line : Text}
    (h : line ∈ tableLines rows) : '\n' ∉ line := by
  have hrule : ∀ {left cross right : Char} (widths : List Nat), '\n' ≠ left → '\n' ≠ cross →
      '\n' ≠ right → line = rule left cross right widths → '\n' ∉ line := by
    rintro left cross right widths hleft hcross hright rfl
    exact newline_not_mem_rule widths hleft hcross hright
  simp only [tableLines, List.mem_append, List.mem_singleton, List.mem_flatMap] at h
  rcases h with (((htop | hheading) | hmiddle) | ⟨cells, _, hrow⟩) | hbottom
  · exact hrule _ (by decide) (by decide) (by decide) htop
  · exact newline_not_mem_rowLines hheading
  · exact hrule _ (by decide) (by decide) (by decide) hmiddle
  · exact newline_not_mem_rowLines hrow
  · split at hbottom
    · exact absurd hbottom List.not_mem_nil
    · exact hrule _ (by decide) (by decide) (by decide) (List.mem_singleton.mp hbottom)

theorem lines_table (reports : List Report) :
    Text.lines (table reports ++ "\n").toList =
      tableLines ((reports.flatMap (·.diagnostics)).map cellsOf) ++ [[]] := by
  have hne : tableLines ((reports.flatMap (·.diagnostics)).map cellsOf) ≠ [] := by
    simp [tableLines]
  have htext : (table reports ++ "\n").toList = Text.join '\n'
      (tableLines ((reports.flatMap (·.diagnostics)).map cellsOf)) ++ ['\n'] := by
    rw [table, String.toList_append, String.toList_ofList]
    rfl
  rw [htext, Text.lines, Text.split_append_cons,
    Text.split_join hne fun _ => newline_not_mem_tableLines]
  rfl

/-- A table of some diagnostics is a heading between two rules, one row for each of the diagnostics
in their order, and a rule. -/
theorem exists_lines_table {reports : List Report}
    (h : reports.flatMap (·.diagnostics) ≠ []) :
    ∃ widths heading blocks,
      Text.lines (table reports ++ "\n").toList = [rule '╭' '┬' '╮' widths] ++ heading
        ++ [rule '├' '┼' '┤' widths] ++ blocks.flatten ++ [rule '╰' '┴' '╯' widths, []] ∧
      ShowsRow widths headings heading ∧
      List.Forall₂ (fun diagnostic block => ShowsRow widths (cellsOf diagnostic) block)
        (reports.flatMap (·.diagnostics)) blocks := by
  have hlines := lines_table reports
  obtain ⟨rows, hrows⟩ : ∃ rows, rows = (reports.flatMap (·.diagnostics)).map cellsOf := ⟨_, rfl⟩
  have hsome : rows.isEmpty = false := by simpa [hrows] using h
  rw [← hrows] at hlines
  refine ⟨columnWidths rows headings, _, rows.map (rowLines (columnWidths rows headings)), ?_,
    showsRow_columnWidths rfl (Or.inl rfl), ?_⟩
  · rw [hlines, tableLines, hsome, if_neg Bool.false_ne_true, List.flatMap_def]
    simp only [List.append_assoc, List.singleton_append]
  · rw [hrows, List.map_map, List.forall₂_map_right_iff, List.forall₂_same]
    intro diagnostic hmem
    rw [Function.comp_apply]
    exact showsRow_columnWidths rfl (Or.inr (List.mem_map_of_mem hmem))

end Report

end ApiLint
