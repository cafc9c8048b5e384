import DartModels.Proofs.Compilation.Stages
import DartModels.Proofs.Declaration.Content
import DartModels.Proofs.Progress
import DartModels.Proofs.Renumbering
import DartModels.Proofs.Text.Joining

/-!
# The compilation of two texts

A text that compiles leaves nothing open: behind it and a line feed, another text is read as it
would be alone, on lines with greater numbers. The line feed itself changes at most the last line of
the first text, by a carriage return or an empty line, which no reader looks at.

Results:
* `readLines_append`, `readLines_newline`: lines are read behind others, and a line feed behind a
  text changes nothing;
* `readDeclarations_append`: the declarations of the first text and then those of the second;
* `compile_append`: the compilation of the first text and then that of the second.
-/

namespace DartModels

open Text

namespace Declaration

/-- **Behind lines that leave no call open, further lines are read as if they stood alone.** -/
theorem readLines_append {state : Option OpenCall} {ls : List (Nat × List Char)}
    {ds : List Declaration} (h : readLines state ls = ⟨ds, none⟩) (ms : List (Nat × List Char)) :
    readLines state (ls ++ ms) = .prepend ds (readLines none ms) :=
  (reads_of_readLines h).readLines_append ms

/-! ## The seam -/

theorem trim_chomp (l : List Char) : trim (chomp l) = trim l := by
  rcases chomp_eq_or l with h | h
  · rw [← h]
  · have hb : AllBlank ['\r'] := .singleton (by decide)
    conv => rhs; rw [h, trim_append_blank hb]

/-- A line feed behind a text leaves its content as it is. -/
theorem content_newline (t : List Char) :
    content (number 1 (lines (t ++ ['\n']))) = content (number 1 (lines t)) := by
  obtain ⟨ls, l, hn, ht⟩ := exists_last_line t
  rw [hn, ht, number_append, number_append, content_append, content_append]
  congr 1
  by_cases hl : l = []
  · subst hl
    rfl
  · rw [if_neg hl]
    exact content_singleton_congr (trim_chomp l)

/-- **A line feed behind a text changes nothing that is read.** -/
theorem readLines_newline (t : List Char) :
    readLines none (number 1 (lines (t ++ ['\n']))) = readLines none (number 1 (lines t)) :=
  readLines_congr (content_newline t)

end Declaration

open Declaration in
/-- **The declarations of two texts** are those of the first, and then those of the second on lines
with greater numbers, as far as they are read. -/
theorem readDeclarations_append {t₁ : String} {ds : List Declaration}
    (h : declarations t₁ = .ok ds) (t₂ : String) :
    readDeclarations (t₁ ++ "\n" ++ t₂) =
      .prepend ds ((readDeclarations t₂).map (mapLine (· + (t₁.toList.count '\n' + 1)))
        (SourceError.mapLine (· + (t₁.toList.count '\n' + 1)))) := by
  have htext : (t₁ ++ "\n" ++ t₂).toList = t₁.toList ++ '\n' :: t₂.toList := by
    rw [String.toList_append, String.toList_append, List.append_assoc]
    rfl
  have hfirst : readLines none (number 1 (lines (t₁.toList ++ ['\n']))) = ⟨ds, none⟩ := by
    rw [readLines_newline]
    exact Progress.eq_of_toExcept_eq_ok h
  unfold readDeclarations
  rw [numberedLines_eq, numberedLines_eq, htext, lines_append_newline, number_append,
    readLines_append hfirst, length_lines_newline, number_add, ← readLines_mapLine, Option.map_none]

theorem readFields_append {camelCase : Bool} {ds : List Declaration} {fs : List Field}
    (h : (readFields camelCase ds).toExcept = .ok fs) (es : List Declaration) :
    readFields camelCase (ds ++ es) = .prepend fs (readFields camelCase es) := by
  have hds := Progress.eq_of_toExcept_eq_ok h
  unfold readFields at hds ⊢
  rw [Progress.ofList_append, hds]
  rfl

/-! ## Compilations -/

namespace Compilation

/-- The fields and findings of another compilation put behind those of this one. -/
def append (c c' : Compilation) : Compilation :=
  ⟨⟨c.model.name, c.model.fields ++ c'.model.fields⟩, c.diagnostics ++ c'.diagnostics⟩

theorem ofFields_append (className : String) (fs gs : List Field) :
    ofFields className (fs ++ gs) = (ofFields className fs).append (ofFields className gs) := by
  unfold ofFields
  rw [Diagnostic.ofFields, List.filterMap_append]
  rfl

end Compilation

/-- The declarations of a second text compile behind those of a first as they do alone. -/
theorem compileDeclarations_append {o : Options} {ds : List Declaration} {c : Compilation}
    (h : compileDeclarations o ds = .ok c) (g : Nat → Nat) (es : List Declaration) :
    compileDeclarations o (ds ++ es.map (Declaration.mapLine g)) =
      ((compileDeclarations o es).map fun c' => c.append (c'.mapLine g)).mapError
        (SourceError.mapLine g) := by
  obtain ⟨fs, hfs, rfl⟩ := compileDeclarations_eq_ok_iff.mp h
  unfold compileDeclarations
  rw [readFields_append hfs, readFields_mapLine, Progress.toExcept_prepend, Progress.toExcept_map]
  cases (readFields o.camelCase es).toExcept with
  | error e => rfl
  | ok gs =>
    have hgs := Compilation.ofFields_append o.className fs (gs.map (Field.mapLine g))
    rw [Compilation.ofFields_mapLine] at hgs
    exact congrArg Except.ok hgs

/-- **Compilation is compositional.** If a text compiles, then with a line feed and another text
behind it, it compiles to its own fields and findings and then those of the other text, all lines of
which come after its own; and if the other text does not compile, it fails with the same error, on
the line where that is now. -/
theorem compile_append {t₁ : String} {o : Options} {c₁ : Compilation}
    (h : compile t₁ o = .ok c₁) (t₂ : String) :
    compile (t₁ ++ "\n" ++ t₂) o =
      match compile t₂ o with
      | .ok c₂ => .ok (c₁.append (c₂.mapLine (· + (t₁.toList.count '\n' + 1))))
      | .error e => .error (e.mapLine (· + (t₁.toList.count '\n' + 1))) := by
  obtain ⟨ho, ds, fs, hds, hfs, rfl⟩ := compile_eq_ok_iff.mp h
  have hc : compileDeclarations o ds = .ok (.ofFields o.className fs) :=
    compileDeclarations_eq_ok_iff.mpr ⟨fs, hfs, rfl⟩
  rw [compile_of_isIdentifier ho, compile_of_isIdentifier ho, declarations,
    readDeclarations_append hds, Progress.toExcept_prepend, Progress.toExcept_map, declarations]
  cases (readDeclarations t₂).toExcept with
  | error e => rfl
  | ok es =>
    have hes := compileDeclarations_append hc (· + (t₁.toList.count '\n' + 1)) es
    simp only [Except.map, Except.mapError, Except.bind]
    rw [hes]
    cases compileDeclarations o es <;> rfl

/-- The first text ends in a lone carriage return. Behind it comes a field of an unknown type, and
then a line without an equals sign. -/
theorem compile_append_two :
    compile "a = CharField()\n\r" ⟨"A", true⟩ =
        .ok ⟨⟨"A", [⟨"a", "a", "CharField", none, .native "String", 1⟩]⟩, []⟩ ∧
      compile ("a = CharField()\n\r" ++ "\n" ++ "# b\nb_c = X()") ⟨"A", true⟩ =
        .ok ⟨⟨"A", [⟨"a", "a", "CharField", none, .native "String", 1⟩,
          ⟨"b_c", "bC", "X", none, .unresolved, 4⟩]⟩, [.unresolvedType "b_c" "X" 4]⟩ ∧
      compile ("a = CharField()\n\r" ++ "\n" ++ "\n b_c ") ⟨"A", true⟩ =
        .error (.missingAssignment "b_c" 4) := by
  have h : compile "a = CharField()\n\r" ⟨"A", true⟩ =
      .ok ⟨⟨"A", [⟨"a", "a", "CharField", none, .native "String", 1⟩]⟩, []⟩ := rfl
  refine ⟨h, ?_, ?_⟩
  · rw [compile_append h]
    rfl
  · rw [compile_append h]
    rfl

end DartModels
