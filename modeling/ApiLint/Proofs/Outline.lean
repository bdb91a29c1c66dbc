import Mathlib.Data.List.Induction
import ApiLint.Proofs.Text.Lines
import ApiLint.Tree.Outline

/-!
# The lines of a drawing

A drawing has one line for each item, in preorder, and what stands before an item says where it
belongs: three characters for every level above it, the last three tying it to its parent and the
others carrying on the branches that are not yet at their end. `Placed` is an item with what decides
these strokes, `Outline.items` lists the items in order, and `Outline.lines_draw` says that a
drawing is exactly that list, provided that no label has a line feed of its own.

The drawing hands down the strokes it has made so far and the list hands down the way taken so far;
the induction holds the two together.
-/

namespace ApiLint

/-- Something in a tree, and for each level on the way down to it, whether it is in the last branch
there. -/
structure Placed (α : Type) where
  trail : List Bool
  item : α

namespace Placed

variable {α β : Type}

def map (f : α → β) (placed : Placed α) : Placed β := ⟨placed.trail, f placed.item⟩

/-- How many levels stand above. -/
def depth (placed : Placed α) : Nat := placed.trail.length

end Placed

namespace Outline

/-- What carries a branch past the items below it: nothing if it was the last one. -/
def bar (last : Bool) : String := if last then "   " else "│  "

def tie (last : Bool) : String := if last then "└─ " else "├─ "

/-- What stands before everything below an item. -/
def margin (trail : List Bool) : String := String.join (trail.map bar)

/-- What stands before an item. -/
def strokes (trail : List Bool) : String :=
  match trail.getLast? with
  | some last => margin trail.dropLast ++ tie last
  | none => ""

mutual

/-- The items of an outline that is reached by a trail, each before those below it. -/
def items (trail : List Bool) : Outline → List (Placed String)
  | .item label children => ⟨trail, label⟩ :: itemsAll trail children

/-- The items of the outlines below an item that is reached by a trail. -/
def itemsAll (trail : List Bool) : List Outline → List (Placed String)
  | [] => []
  | outline :: rest => items (trail ++ [rest.isEmpty]) outline ++ itemsAll trail rest

end

/-! ## Strokes -/

theorem margin_append (trail : List Bool) (last : Bool) :
    margin (trail ++ [last]) = margin trail ++ bar last := by
  rw [margin, List.map_append, String.join_append, List.map_singleton, String.join_cons,
    String.join_nil, String.append_empty, ← margin]

theorem strokes_append (trail : List Bool) (last : Bool) :
    strokes (trail ++ [last]) = margin trail ++ tie last := by
  rw [strokes, List.getLast?_concat, List.dropLast_concat]

theorem length_margin (trail : List Bool) : (margin trail).length = 3 * trail.length := by
  induction trail using List.reverseRecOn with
  | nil => rfl
  | append_singleton trail last ih =>
      have hbar : (bar last).length = 3 := by cases last <;> rfl
      rw [margin_append, String.length_append, ih, hbar, List.length_append]
      rfl

theorem length_strokes (trail : List Bool) : (strokes trail).length = 3 * trail.length := by
  rcases List.eq_nil_or_concat trail with rfl | ⟨front, last, rfl⟩
  · rfl
  · have htie : (tie last).length = 3 := by cases last <;> rfl
    rw [List.concat_eq_append, strokes_append, String.length_append, length_margin, htie,
      List.length_append]
    rfl

theorem newline_not_mem_margin (trail : List Bool) : '\n' ∉ (margin trail).toList := by
  induction trail using List.reverseRecOn with
  | nil => decide
  | append_singleton trail last ih =>
      have hbar : '\n' ∉ (bar last).toList := by cases last <;> decide
      rw [margin_append, String.toList_append, List.mem_append, not_or]
      exact ⟨ih, hbar⟩

theorem newline_not_mem_strokes (trail : List Bool) : '\n' ∉ (strokes trail).toList := by
  rcases List.eq_nil_or_concat trail with rfl | ⟨front, last, rfl⟩
  · decide
  · have htie : '\n' ∉ (tie last).toList := by cases last <;> decide
    rw [List.concat_eq_append, strokes_append, String.toList_append, List.mem_append, not_or]
    exact ⟨newline_not_mem_margin front, htie⟩

/-! ## Lines -/

/-- The line of an item. -/
def lineOf (placed : Placed String) : String := strokes placed.trail ++ placed.item

theorem toList_lineOf_map {α : Type} (label : α → String) (placed : Placed α) :
    (lineOf (placed.map label)).toList =
      (strokes placed.trail).toList ++ (label placed.item).toList := by
  rw [lineOf, String.toList_append]
  rfl

mutual

theorem linesAt_eq : ∀ (trail : List Bool) (outline : Outline),
    linesAt (strokes trail) (margin trail) outline = (items trail outline).map lineOf
  | trail, .item label children => by
      rw [linesAt, items, List.map_cons, childLines_eq trail children]
      rfl

theorem childLines_eq : ∀ (trail : List Bool) (outlines : List Outline),
    childLines (margin trail) outlines = (itemsAll trail outlines).map lineOf
  | trail, [] => by rw [childLines, itemsAll, List.map_nil]
  | trail, [last] => by
      have hlast := linesAt_eq (trail ++ [true]) last
      rw [strokes_append, margin_append] at hlast
      rw [childLines, itemsAll, itemsAll, List.append_nil]
      exact hlast
  | trail, child :: next :: more => by
      have hchild := linesAt_eq (trail ++ [false]) child
      rw [strokes_append, margin_append] at hchild
      rw [childLines, itemsAll, List.map_append, childLines_eq trail (next :: more)]
      exact congrArg (· ++ _) hchild

end

theorem lines_eq (outline : Outline) : outline.lines = (outline.items []).map lineOf :=
  linesAt_eq [] outline

/-- A drawing is its items, one a line, where no label breaks its line. -/
theorem lines_draw {outline : Outline}
    (h : ∀ placed ∈ outline.items [], '\n' ∉ placed.item.toList) :
    Text.lines outline.draw.toList =
      (outline.items []).map (fun placed => (lineOf placed).toList) ++ [[]] := by
  have hrows : outline.draw.toList =
      ((outline.items []).map fun placed => (lineOf placed).toList).flatMap
        fun row => row ++ ['\n'] := by
    rw [draw, lines_eq, String.toList_join, List.map_map, List.flatMap_map, List.flatMap_map]
    simp only [Function.comp_apply, String.toList_append]
    rfl
  rw [hrows, Text.lines_flatMap_append_newline]
  intro row hrow
  obtain ⟨placed, hmem, rfl⟩ := List.mem_map.mp hrow
  rw [lineOf, String.toList_append, List.mem_append, not_or]
  exact ⟨newline_not_mem_strokes placed.trail, h placed hmem⟩

end Outline

end ApiLint
