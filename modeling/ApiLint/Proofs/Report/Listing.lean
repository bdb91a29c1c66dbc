import Mathlib
import ApiLint.Proofs.Json.Written
import ApiLint.Report.Listing

/-!
# A listing is JSON

A listing is written text by text and is meant to be data. `toJson` says which value each
part is meant to be, and a listing is read as the list of the values of its diagnostics, one for
each and in their order, whatever characters their messages and file names have
(`Diagnostic.read_listingOf`). The one thing that is lost is a line or column that does not fit
in 64 bits, which `Fits` leaves out.
-/

namespace ApiLint

open Json Json.Reader

namespace Position

/-- Both numbers are small enough for JSON to keep them exactly. -/
def Fits (position : Position) : Prop := position.line < 2 ^ 64 ∧ position.column < 2 ^ 64

def toJson (position : Position) : Json :=
  .object (Members.ofList
    [("line", .number (.int position.line)), ("column", .number (.int position.column))])

end Position

namespace Diagnostic

/-- Both ends of the range fit. -/
def Fits (diagnostic : Diagnostic) : Prop :=
  diagnostic.range.start.Fits ∧ diagnostic.range.stop.Fits

def toJson (diagnostic : Diagnostic) : Json :=
  .object (Members.ofList
    [("severity", .string severity), ("message", .string diagnostic.message),
      ("file_path", .string diagnostic.filePath.shown),
      ("range", .object (Members.ofList
        [("start", diagnostic.range.start.toJson), ("end", diagnostic.range.stop.toJson)]))])

end Diagnostic

/-! ## Reading a listing -/

theorem readsMember_jsonMember {levels : Nat} (name : String) {text : String} {found : Json}
    (h : Reads levels text found) : ReadsMember levels (jsonMember name text) (name, found) :=
  ⟨text, rfl, h⟩

theorem Position.reads_listing {position : Position} (h : position.Fits) (level : Nat) :
    Reads 1 (position.listing level) position.toJson :=
  Reads.object level (.cons (readsMember_jsonMember "line" (reads_natToString h.1))
    (.cons (readsMember_jsonMember "column" (reads_natToString h.2)) .nil))

namespace Diagnostic

theorem reads_listing {diagnostic : Diagnostic} (h : diagnostic.Fits) (level : Nat) :
    Reads 3 (diagnostic.listing level) diagnostic.toJson := by
  have hrange := Reads.object (level + 1)
    (.cons (readsMember_jsonMember "start" (Position.reads_listing h.1 (level + 2)))
      (.cons (readsMember_jsonMember "end" (Position.reads_listing h.2 (level + 2))) .nil))
  have htext : ∀ s : String, Reads 2 (quote s) (.string s) :=
    fun s => (reads_quote s).mono (Nat.zero_le 2)
  exact Reads.object level (.cons (readsMember_jsonMember "severity" (htext _))
    (.cons (readsMember_jsonMember "message" (htext _))
      (.cons (readsMember_jsonMember "file_path" (htext _))
        (.cons (readsMember_jsonMember "range" hrange) .nil))))

theorem read_listingOf {diagnostics : List Diagnostic} (h : ∀ d ∈ diagnostics, d.Fits) :
    Json.read (listingOf diagnostics ++ "\n") = .ok (.array (diagnostics.map toJson)) := by
  have hreads : List.Forall₂ (Reads 3) (diagnostics.map (listing 1)) (diagnostics.map toJson) := by
    rw [List.forall₂_map_left_iff, List.forall₂_map_right_iff, List.forall₂_same]
    exact fun d hd => reads_listing (h d hd) 1
  exact read_of_reads (Reads.list 0 hreads) (by decide)

end Diagnostic

end ApiLint
