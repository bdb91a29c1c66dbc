import ApiLint.Proofs.Outline
import ApiLint.Proofs.Path.Display

/-!
# What the drawing of an error shows

The drawing of an invalid document has one line for the error and one for each of its details,
however deep they are nested: a detail comes before those it holds, and one level above them. All
there is to prove beyond the drawing of any outline (`Outline.lines_draw`) is that outlining keeps
the details in place (`Detail.items_outline`) and that no line of theirs is broken.

The message of the error may have any number of lines, and the first of them stands for it. Codes,
messages and names below it are taken as they are, so they must not break their line.
-/

namespace ApiLint

namespace Detail

mutual

/-- A detail that is reached by a trail and those it holds, each before its own. -/
def placed (trail : List Bool) : Detail → List (Placed Detail)
  | .single code message path => [⟨trail, .single code message path⟩]
  | .oneOf code message path inner =>
    ⟨trail, .oneOf code message path inner⟩ :: placedAll trail inner

/-- The details below something that is reached by a trail. -/
def placedAll (trail : List Bool) : List Detail → List (Placed Detail)
  | [] => []
  | detail :: rest => placed (trail ++ [rest.isEmpty]) detail ++ placedAll trail rest

end

mutual

/-- How many details there are, with those at all depths. -/
def total : Detail → Nat
  | .single .. => 1
  | .oneOf _ _ _ inner => 1 + totalAll inner

/-- How many details a list holds at all depths. -/
def totalAll : List Detail → Nat
  | [] => 0
  | detail :: rest => total detail + totalAll rest

end

mutual

theorem length_placed : ∀ (trail : List Bool) (detail : Detail),
    (placed trail detail).length = total detail
  | trail, .single code message path => rfl
  | trail, .oneOf code message path inner => by
      rw [placed, total, List.length_cons, length_placedAll trail inner, Nat.add_comm]

theorem length_placedAll : ∀ (trail : List Bool) (details : List Detail),
    (placedAll trail details).length = totalAll details
  | trail, [] => rfl
  | trail, detail :: rest => by
      rw [placedAll, totalAll, List.length_append, length_placed _ detail,
        length_placedAll trail rest]

end

theorem isEmpty_outlines (details : List Detail) :
    (outlines details).isEmpty = details.isEmpty := by
  cases details <;> rfl

mutual

/-- Outlining keeps every detail where it is. -/
theorem items_outline : ∀ (trail : List Bool) (detail : Detail),
    (outline detail).items trail = (placed trail detail).map (Placed.map line)
  | trail, .single code message path => rfl
  | trail, .oneOf code message path inner => by
      rw [outline, Outline.items, itemsAll_outlines trail inner, placed, List.map_cons]
      rfl

theorem itemsAll_outlines : ∀ (trail : List Bool) (details : List Detail),
    Outline.itemsAll trail (outlines details) = (placedAll trail details).map (Placed.map line)
  | trail, [] => rfl
  | trail, detail :: rest => by
      rw [outlines, Outline.itemsAll, isEmpty_outlines, items_outline _ detail,
        itemsAll_outlines trail rest, placedAll, List.map_append]

end

end Detail

/-! ## Lines that are not broken -/

/-- A name without a line feed; an index has none in any case. -/
def Segment.OnOneLine : Segment → Prop
  | .index _ => True
  | .key name => '\n' ∉ name

instance (segment : Segment) : Decidable segment.OnOneLine :=
  match segment with
  | .index _ => inferInstanceAs (Decidable True)
  | .key name => inferInstanceAs (Decidable ('\n' ∉ name))

theorem Segment.newline_not_mem_display {segment : Segment} (h : segment.OnOneLine) :
    '\n' ∉ segment.display := by
  cases segment with
  | index n => exact Numeral.not_mem_toDigits rfl n
  | key name => exact h

theorem Path.newline_not_mem_display {path : Path} (h : ∀ segment ∈ path, segment.OnOneLine) :
    '\n' ∉ path.display := by
  rw [Path.display, List.mem_flatMap]
  rintro ⟨segment, hmem, hnewline⟩
  rcases List.mem_cons.mp hnewline with hslash | hdisplay
  · exact absurd hslash (by decide)
  · exact Segment.newline_not_mem_display (h segment hmem) hdisplay

namespace Detail

/-- Neither the code nor the message nor a name on the way to the place has a line feed. -/
structure OnOneLine (detail : Detail) : Prop where
  code : '\n' ∉ detail.code.toList
  message : '\n' ∉ detail.message.toList
  path : ∀ segment ∈ detail.path, segment.OnOneLine

instance (detail : Detail) : Decidable detail.OnOneLine :=
  decidable_of_iff ('\n' ∉ detail.code.toList ∧ '\n' ∉ detail.message.toList ∧
      ∀ segment ∈ detail.path, segment.OnOneLine)
    ⟨fun h => ⟨h.1, h.2.1, h.2.2⟩, fun h => ⟨h.code, h.message, h.path⟩⟩

theorem toList_line (detail : Detail) :
    detail.line.toList = '[' :: detail.code.toList ++ "] ".toList ++ detail.message.toList ++
      " at ".toList ++ if detail.path = [] then ['/'] else detail.path.display := by
  rw [line, ← toList_shownPath]
  simp only [String.toList_append, toString]
  rfl

theorem newline_not_mem_line {detail : Detail} (h : detail.OnOneLine) :
    '\n' ∉ detail.line.toList := by
  have hpath : '\n' ∉ if detail.path = [] then ['/'] else detail.path.display := by
    split
    · decide
    · exact Path.newline_not_mem_display h.path
  rw [toList_line, List.mem_append, not_or]
  exact ⟨by simp [h.code, h.message], hpath⟩

end Detail

namespace ValidationError

/-- The error stands above its details. -/
theorem items_outline_invalid (message : String) (details : List Detail) :
    (outline (.invalid message details)).items [] =
      ⟨[], String.ofList (Text.firstLine message.toList)⟩ ::
        (Detail.placedAll [] details).map (Placed.map Detail.line) := by
  rw [outline, Outline.items, details?, Option.getD_some, Detail.itemsAll_outlines]
  rfl

/-- An invalid document is drawn line by line: the first line of the message, then every detail
once, in preorder and three characters further in for each level above it. -/
theorem lines_draw_invalid {message : String} {details : List Detail}
    (h : ∀ placed ∈ Detail.placedAll [] details, placed.item.OnOneLine) :
    ∃ first lines,
      Text.lines (outline (.invalid message details)).draw.toList = first :: lines ++ [[]] ∧
        Text.IsFirstLine first message.toList ∧ lines.length = Detail.totalAll details ∧
        lines = (Detail.placedAll [] details).map (fun placed =>
          (Outline.strokes placed.trail).toList ++ ('[' :: placed.item.code.toList ++ "] ".toList ++
            placed.item.message.toList ++ " at ".toList ++
              if placed.item.path = [] then ['/'] else placed.item.path.display)) ∧
        ∀ placed ∈ Detail.placedAll [] details,
          (Outline.strokes placed.trail).length = 3 * placed.depth := by
  have hfirst := Text.isFirstLine_firstLine message.toList
  have hitems : ∀ placed ∈ (outline (.invalid message details)).items [],
      '\n' ∉ placed.item.toList := by
    rw [items_outline_invalid, List.forall_mem_cons, List.forall_mem_map]
    refine ⟨?_, fun placed hmem => Detail.newline_not_mem_line (h placed hmem)⟩
    rw [String.toList_ofList]
    exact hfirst.newline_not_mem
  have hlines := Outline.lines_draw hitems
  rw [items_outline_invalid, List.map_cons, List.map_map] at hlines
  refine ⟨_, _, hlines, ?_, ?_, ?_, fun placed _ => Outline.length_strokes placed.trail⟩
  · rw [Outline.lineOf, String.toList_append, String.toList_ofList]
    exact hfirst
  · rw [List.length_map, Detail.length_placedAll]
  · refine List.map_congr_left fun placed _ => ?_
    rw [Function.comp_apply, Outline.toList_lineOf_map, Detail.toList_line]

/-- An error whose message has two lines, and details three levels deep. -/
theorem lines_draw_of_nested_choices :
    let inner : Detail := .ofChoice "none" [.key "a".toList, .index 0] [.single "B" "deep" []]
    let details : List Detail := [.ofChoice "no match" [.key "a".toList] [inner, .single "C" "" []],
      .single "D" "last" [.key "é".toList]]
    (∀ placed ∈ Detail.placedAll [] details, placed.item.OnOneLine) ∧
      ∃ first lines,
        Text.lines (outline (.invalid "bad\r\nand more" details)).draw.toList =
          first :: lines ++ [[]] ∧ lines.length = 5 ∧
        lines[2]? = some "│  │  └─ [B] deep at /".toList := by
  intro inner details
  have h : ∀ placed ∈ Detail.placedAll [] details, placed.item.OnOneLine := by decide
  obtain ⟨first, lines, hdraw, _, hlength, hlines, _⟩ :=
    @lines_draw_invalid "bad\r\nand more" details h
  refine ⟨h, first, lines, hdraw, hlength, ?_⟩
  rw [hlines]
  decide +kernel

end ValidationError

end ApiLint
