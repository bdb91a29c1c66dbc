import Mathlib
import ApiLint.Proofs.Tokenize

/-!
# The tokens of the lines are the text

Whoever lists keys for a text may list them in any order, twice, and over one another. All
that is asked of each is that it lies on the line that it says, between characters, and that
its name is what it covers, perhaps without a quote at either end (`KeySpan.OnLine`). Such a
key fits the text (`OnLine.fits`), which places it by what precedes it in the whole text, so
the text can be cut at all of them: `splitLines?_rebuilds_text` says that nothing of it is lost
or doubled, and that the last line ends where the document does.
-/

namespace ApiLint

namespace KeySpan

/-- The key covers a piece of the line that it says; its name is not empty, and is that piece
or what stands in it between two quotes. -/
structure OnLine (text : Text) (key : KeySpan) : Prop where
  exists_piece : ∃ front piece back : Text,
    text.lines[key.row]? = some (front ++ (piece ++ back)) ∧
    key.outer = ⟨(text.lineStart key.row ++ front).byteLength,
      (text.lineStart key.row ++ front).byteLength + piece.byteLength⟩ ∧
    (key.name = key.outer ∨ key.name = ⟨key.outer.start + 1, key.outer.stop - 1⟩ ∧
      ∃ opening closing inner, (opening = '"' ∨ opening = '\'') ∧
        (closing = '"' ∨ closing = '\'') ∧ piece = opening :: (inner ++ [closing]))
  named : key.name.start < key.name.stop

theorem OnLine.fits {text : Text} {key : KeySpan} (h : key.OnLine text) : key.Fits text := by
  obtain ⟨⟨front, piece, back, hline, houter, hname⟩, hnamed⟩ := h
  obtain ⟨after, htext⟩ := Text.eq_lineStart_append hline
  have hwhole : '\n' ∉ front ++ (piece ++ back) :=
    Text.not_mem_of_mem_lines (List.mem_of_getElem? hline)
  simp only [List.mem_append, not_or] at hwhole
  obtain ⟨hfront, hpiece, _⟩ := hwhole
  have hrow : key.row = (text.lineStart key.row ++ front).count '\n' := by
    rw [List.count_append, Text.count_lineStart hline, List.count_eq_zero_of_not_mem hfront,
      Nat.add_zero]
  rcases hname with hname | ⟨hname, opening, closing, inner, hopening, hclosing, rfl⟩
  · have hne : piece ≠ [] := by
      rintro rfl
      rw [hname, houter] at hnamed
      simp at hnamed
    exact .mk (text.lineStart key.row ++ front) [] piece [] (back ++ after)
      (by simpa using htext) (by simpa using houter) (by simpa [hname] using houter) hrow
      (Or.inl ⟨rfl, rfl⟩) (by simpa using hpiece) hne
  · have hopensize : opening.utf8Size = 1 := by rcases hopening with rfl | rfl <;> rfl
    have hclosesize : closing.utf8Size = 1 := by rcases hclosing with rfl | rfl <;> rfl
    have hne : inner ≠ [] := by
      rintro rfl
      rw [hname, houter] at hnamed
      simp [hopensize, hclosesize] at hnamed
    refine .mk (text.lineStart key.row ++ front) [opening] inner [closing] (back ++ after)
      (by simpa using htext) houter ?_ hrow (Or.inr ⟨by simp, by simp⟩) hpiece hne
    rw [hname, houter]
    simp only [Text.byteLength_append, Text.byteLength_cons, Text.byteLength_nil, hopensize,
      hclosesize, Span.mk.injEq, true_and]
    omega

end KeySpan

theorem TokenLine.length_text (line : TokenLine) :
    (TokenLine.text line).length = (line.map Token.width).sum := by
  rw [TokenLine.text, List.length_flatMap]
  rfl

namespace TokenizedDocument

/-- A text can be cut at keys that lie on their lines, in whatever order they come. There is a
line of tokens for every line, none of the tokens is empty, and joined together they are the
lines and the text. The document ends where its last line does. -/
theorem splitLines?_rebuilds_text (grammar : Grammar) {text : Text} {keys : List KeySpan}
    (hkeys : ∀ key ∈ keys, key.OnLine text) :
    ∃ lines, splitLines? text grammar keys = some lines ∧
      lines.length = text.count '\n' + 1 ∧
      lines.map TokenLine.text = text.lines ∧
      Text.join '\n' (lines.map TokenLine.text) = text ∧
      (∀ line ∈ lines, ∀ token ∈ line, token.value ≠ []) ∧
      let source := source ⟨grammar, lines⟩
      ∃ last, source.line? (source.lineCount - 1) = some last ∧
        (Range.wholeDocument text).stop = ⟨source.lineCount - 1, (last.map Token.width).sum⟩ := by
  obtain ⟨lines, hlines, htexts, hnonempty, _⟩ :=
    splitLines?_spec grammar fun key hkey => (hkeys key hkey).fits
  have hcount : lines.length = text.lines.length := by rw [← htexts, List.length_map]
  obtain ⟨last, hlast, hlasttext⟩ : ∃ last, lines.getLast? = some last ∧
      TokenLine.text last = text.lastLine := by
    have h := Text.getLast?_lines text
    rw [← htexts, List.getLast?_map] at h
    exact Option.map_eq_some_iff.mp h
  refine ⟨lines, hlines, by rw [hcount, Text.length_lines], htexts, ?_, hnonempty, last, ?_, ?_⟩
  · rw [htexts]
    exact Text.join_split '\n' text
  · rw [← hlast, List.getLast?_eq_getElem?]
    rfl
  · rw [← TokenLine.length_text, hlasttext]
    show (⟨text.lines.length - 1, text.lastLine.length⟩ : Position) = ⟨lines.length - 1, _⟩
    rw [hcount]

/-- Keys out of order: one is listed twice, another starts before a key that was taken. -/
theorem splitLines?_rebuilds_accented_text :
    let text : Text := "é: 'b'\nc: ü".toList
    let keys : List KeySpan :=
      [⟨0, ⟨4, 7⟩, ⟨5, 6⟩⟩, ⟨0, ⟨4, 7⟩, ⟨5, 6⟩⟩, ⟨0, ⟨0, 2⟩, ⟨0, 2⟩⟩, ⟨1, ⟨8, 9⟩, ⟨8, 9⟩⟩]
    (∀ key ∈ keys, key.OnLine text) ∧
      ∃ lines, splitLines? text .yaml keys = some lines ∧
        lines.map TokenLine.text = ["é: 'b'".toList, "c: ü".toList] ∧
        (∀ line ∈ lines, ∀ token ∈ line, token.value ≠ []) ∧
        (Range.wholeDocument text).stop = ⟨1, 4⟩ := by
  intro text keys
  have hkeys : ∀ key ∈ keys, key.OnLine text := by
    intro key hkey
    simp only [keys, List.mem_cons, List.not_mem_nil, or_false] at hkey
    rcases hkey with rfl | rfl | rfl | rfl
    · exact ⟨⟨"é: ".toList, "'b'".toList, [], rfl, rfl, Or.inr ⟨rfl, '\'', '\'', ['b'], by decide,
        by decide, rfl⟩⟩, by decide⟩
    · exact ⟨⟨"é: ".toList, "'b'".toList, [], rfl, rfl, Or.inr ⟨rfl, '\'', '\'', ['b'], by decide,
        by decide, rfl⟩⟩, by decide⟩
    · exact ⟨⟨[], ['é'], ": 'b'".toList, rfl, rfl, Or.inl rfl⟩, by decide⟩
    · exact ⟨⟨[], ['c'], ": ü".toList, rfl, rfl, Or.inl rfl⟩, by decide⟩
  obtain ⟨lines, hlines, _, htexts, _, hnonempty, _⟩ := splitLines?_rebuilds_text .yaml hkeys
  exact ⟨hkeys, lines, hlines, htexts.trans (by decide), hnonempty, by decide⟩

end TokenizedDocument

end ApiLint
