import DartModels.Proofs.Declaration.Content
import DartModels.Proofs.Declaration.Stopping
import DartModels.Proofs.Renumbering

/-!
# The layout of a text

Blank lines, comments on lines of their own, indentation, blanks behind a line and the endings of
lines are the layout of a text. What is left without it is its content: the other lines, trimmed,
with a line feed between them. The content is read as the text is, on lines with other numbers,
whether a line that is left out stands between declarations or inside a call.

Results:
* `lines_contentText`: the lines of the content are the lines of the text that say something;
* `map_lineIn_number`: their numbers in the content, taken back to those in the text;
* `declarations_layout`: the declarations and the error of a text are those of its content.
-/

namespace DartModels

open Text

namespace Declaration

/-- The lines of a text that are neither blank nor comments, trimmed, with their numbers. -/
def statements (text : String) : List (Nat × List Char) :=
  content (numberedLines text.toList)

/-- The same lines as a text of their own. -/
def contentText (text : String) : String :=
  "\n".intercalate ((statements text).map fun p => String.ofList p.2)

/-- The number in the text of the line with number `j` among those that say something. -/
def lineIn (text : String) (j : Nat) : Nat :=
  ((statements text)[j - 1]?.map Prod.fst).getD 0

theorem mem_content {n : Nat} {l : List Char} {ls : List (Nat × List Char)} :
    (n, l) ∈ content ls ↔ ∃ m, (n, m) ∈ ls ∧ isVoid m = false ∧ trim m = l := by
  simp [content, and_assoc]

theorem getElem?_number (n i : Nat) (ls : List (List Char)) :
    (number n ls)[i]? = ls[i]?.map fun l => (n + i, l) := by
  simp [number, Function.comp_def]

/-- **The lines of the content are the lines of the text that say something.** -/
theorem lines_contentText (text : String) :
    lines (contentText text).toList = (statements text).map Prod.snd := by
  have hmem : ∀ l ∈ (statements text).map Prod.snd,
      '\n' ∉ l ∧ Trimmed l ∧ l ≠ [] := by
    intro l hl
    obtain ⟨⟨n, l'⟩, hp, rfl⟩ := List.mem_map.mp hl
    obtain ⟨m, hm, hv, rfl⟩ := mem_content.mp hp
    obtain ⟨-, hm⟩ := mem_number.mp hm
    refine ⟨fun h => ?_, trimmed_trim m, fun h => ?_⟩
    · exact not_mem_of_mem_lines (List.mem_of_getElem? hm) (mem_of_mem_trim h)
    · rw [isVoid_iff.mpr (Or.inl h)] at hv
      cases hv
  have htext : (contentText text).toList = ['\n'].intercalate ((statements text).map Prod.snd) := by
    rw [contentText, String.toList_intercalate, List.map_map]
    simp [Function.comp_def]
  rw [htext]
  refine lines_intercalate (fun l hl => (hmem l hl).1) (fun l hl hr => ?_)
    fun l hl => (hmem l hl).2.2
  exact absurd ((hmem l hl).2.1.last _ hr) (by decide)

/-- **The numbers in the content are taken back to those in the text.** -/
theorem map_lineIn_number (text : String) :
    (number 1 ((statements text).map Prod.snd)).map (fun p => (lineIn text p.1, p.2)) =
      statements text := by
  refine List.ext_getElem? fun i => ?_
  rw [List.getElem?_map, getElem?_number, List.getElem?_map]
  unfold lineIn
  cases h : (statements text)[i]? with
  | none => rfl
  | some p => simp [h]

/-- **A text is read like its content**, on other lines. -/
theorem readDeclarations_contentText (text : String) :
    readDeclarations text = (readDeclarations (contentText text)).map (mapLine (lineIn text))
      (SourceError.mapLine (lineIn text)) := by
  calc readDeclarations text
    _ = readLines none (statements text) := (readLines_content none _).symm
    _ = readLines none ((number 1 ((statements text).map Prod.snd)).map fun p =>
          (lineIn text p.1, p.2)) := by rw [map_lineIn_number]
    _ = (readLines none (number 1 ((statements text).map Prod.snd))).map (mapLine (lineIn text))
          (SourceError.mapLine (lineIn text)) := readLines_mapLine (lineIn text) none _
    _ = (readDeclarations (contentText text)).map (mapLine (lineIn text))
          (SourceError.mapLine (lineIn text)) := by
        rw [readDeclarations, numberedLines_eq, lines_contentText]

end Declaration

open Declaration in
/-- **Layout does not matter.** A text has the declarations of its content, or its error, with every
line number taken back to that of the line in the text; and the content has a line of each of
these numbers. -/
theorem declarations_layout (text : String) :
    declarations text =
        ((declarations (contentText text)).map (List.map (mapLine (lineIn text)))).mapError
          (SourceError.mapLine (lineIn text)) ∧
      (∀ ds, declarations (contentText text) = .ok ds →
        ∀ d ∈ ds, 1 ≤ d.line ∧ d.line ≤ (statements text).length) ∧
      ∀ e, declarations (contentText text) = .error e →
        ∃ k, e.line? = some k ∧ 1 ≤ k ∧ k ≤ (statements text).length := by
  have hlen : (lines (contentText text).toList).length = (statements text).length := by
    rw [lines_contentText, List.length_map]
  refine ⟨?_, fun ds hds d hd => ?_, fun e he => ?_⟩
  · rw [declarations, readDeclarations_contentText, Progress.toExcept_map, declarations]
  · obtain ⟨a, block, b, hls, hline, hb⟩ := exists_block (readLines_eq_ok_iff.mp hds) d hd
    have hpos := length_pos_of_declares hb
    rw [← hlen, hls, List.length_append, List.length_append]
    omega
  · rw [← hlen]
    exact exists_line? he

open Declaration in
/-- A call with a blank line, a comment and blanks inside, and a line without an equals sign behind
others that are left out. -/
theorem declarations_layout_two :
    contentText "\n  a = F( # c\n\n# d\n 'x' )\t\r\n" = "a = F( # c\n'x' )" ∧
      declarations "\n  a = F( # c\n\n# d\n 'x' )\t\r\n" = .ok [⟨"a = F( 'x' )", 2⟩] ∧
      declarations "a = F()\n\n# c\n b \r\n" = .error (.missingAssignment "b" 4) ∧
      ∃ k, (SourceError.missingAssignment "b" 2).line? = some k ∧ 1 ≤ k ∧
        k ≤ (statements "a = F()\n\n# c\n b \r\n").length := by
  refine ⟨rfl, ?_, ?_, ?_⟩
  · rw [(declarations_layout _).1]
    rfl
  · rw [(declarations_layout _).1]
    rfl
  · exact (declarations_layout "a = F()\n\n# c\n b \r\n").2.2 _ rfl

end DartModels
