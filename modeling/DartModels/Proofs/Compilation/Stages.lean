import DartModels.Compilation

/-!
# The stages of a compilation

A compilation checks the class name, divides the text into declarations and reads these as fields.
If the class name is an identifier, the two stages that follow decide everything
(`compile_of_isIdentifier`), and a compilation succeeds exactly if all three do
(`compile_eq_ok_iff`).
-/

namespace DartModels

/-- Declarations as a class with the findings about its fields. -/
def compileDeclarations (o : Options) (ds : List Declaration) : Except SourceError Compilation :=
  (readFields o.camelCase ds).toExcept.map (Compilation.ofFields o.className)

theorem compile_of_isIdentifier {o : Options} (ho : Name.isIdentifier o.className.toList = true)
    (text : String) : compile text o = (declarations text).bind (compileDeclarations o) := by
  unfold compile
  rw [if_pos ho]
  cases declarations text with
  | error e => rfl
  | ok ds =>
    simp only [Bind.bind, Except.bind, compileDeclarations]
    cases (readFields o.camelCase ds).toExcept <;> rfl

theorem compile_of_not_isIdentifier {o : Options}
    (ho : Name.isIdentifier o.className.toList = false) (text : String) :
    compile text o = .error (.invalidClassName o.className) := by
  unfold compile
  rw [ho]
  rfl

theorem compileDeclarations_eq_ok_iff {o : Options} {ds : List Declaration} {c : Compilation} :
    compileDeclarations o ds = .ok c ↔
      ∃ fs, (readFields o.camelCase ds).toExcept = .ok fs ∧ c = .ofFields o.className fs := by
  unfold compileDeclarations
  cases (readFields o.camelCase ds).toExcept with
  | error e => simp [Except.map]
  | ok fs => simp [Except.map, eq_comm]

/-- **A compilation succeeds exactly if all its stages do.** -/
theorem compile_eq_ok_iff {text : String} {o : Options} {c : Compilation} :
    compile text o = .ok c ↔ Name.isIdentifier o.className.toList = true ∧
      ∃ ds fs, declarations text = .ok ds ∧ (readFields o.camelCase ds).toExcept = .ok fs ∧
        c = .ofFields o.className fs := by
  cases ho : Name.isIdentifier o.className.toList with
  | false => simp [compile_of_not_isIdentifier ho]
  | true =>
    rw [compile_of_isIdentifier ho]
    cases declarations text with
    | error e => simp [Except.bind]
    | ok ds =>
      simp only [Except.bind, compileDeclarations_eq_ok_iff, true_and, Except.ok.injEq,
        exists_and_left, exists_eq_left']

end DartModels
