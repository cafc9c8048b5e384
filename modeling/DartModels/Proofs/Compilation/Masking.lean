import DartModels.Proofs.Compilation.Provenance
import DartModels.Proofs.Declaration.Stopping

/-!
# Which error is reported

A text is divided into declarations as a whole before any of them is read as a field. So an error of
a field, which has the line of its declaration or none, is reported only if all that follows can be
divided: an error of the division is reported in its place, also one of a later line.

Results:
* `compileDeclarations_append_eq_error`, `line?_of_compileDeclarations`: an error of a field is that
  of the first declaration at fault, and has a line of the text, if it has one;
* `compile_error_append_iff`: what becomes of the error of a field if another text follows;
* `compile_error_masked`: a field without a name, and a line behind it that hides this.
-/

namespace DartModels

open Text

theorem compileDeclarations_eq_error_iff {o : Options} {ds : List Declaration} {e : SourceError} :
    compileDeclarations o ds = .error e ↔ (readFields o.camelCase ds).toExcept = .error e := by
  unfold compileDeclarations
  cases (readFields o.camelCase ds).toExcept with
  | error e' => simp [Except.map]
  | ok fs => simp [Except.map]

/-- The error of a field is that of the declarations it is read from, and of these with others
behind them. -/
theorem compileDeclarations_append_eq_error {o : Options} {ds : List Declaration} {e : SourceError}
    (h : compileDeclarations o ds = .error e) (es : List Declaration) :
    compileDeclarations o (ds ++ es) = .error e := by
  rw [compileDeclarations_eq_error_iff] at h ⊢
  exact Progress.ofList_append_eq_error h es

namespace Outcome

/-- An error of a field has the line of its declaration, or none. -/
theorem line?_eq {name : List Char} {line : Nat} {camelCase : Bool} {e : SourceError}
    (h : Outcome name line camelCase (.error e)) : e.line? = some line ∨ e.line? = none := by
  cases h with
  | missingName => exact Or.inl rfl
  | emptyMember => exact Or.inl rfl
  | missingReference => exact Or.inr rfl

end Outcome

theorem NamedOn.le_count {text : String} {n : Nat} {name : List Char} (h : NamedOn text n name) :
    n ≤ text.toList.count '\n' + 1 := by
  obtain ⟨left, right, hmem, _⟩ := h
  rw [numberedLines_eq, mem_number] at hmem
  have hlt := (List.getElem?_eq_some_iff.mp hmem.2).1
  have hle := length_lines_le text.toList
  omega

/-- **An error of a field stands on a line of the text**, if it has a line. -/
theorem line?_of_compileDeclarations {text : String} {o : Options} {ds : List Declaration}
    {e : SourceError} (hds : declarations text = .ok ds)
    (he : compileDeclarations o ds = .error e) {n : Nat} (hn : e.line? = some n) :
    n ≤ text.toList.count '\n' + 1 := by
  rw [compileDeclarations_eq_error_iff] at he
  obtain ⟨d, hd, hread⟩ := Progress.exists_of_ofList_eq_error he
  obtain ⟨name, hnamed, hout⟩ := Declaration.outcome_ofDeclaration hds hd o.camelCase
  rw [hread] at hout
  rcases hout.line?_eq with h | h
  · obtain rfl : d.line = n := Option.some.inj (h.symm.trans hn)
    exact hnamed.le_count
  · rw [h] at hn
    cases hn

theorem SourceError.line?_mapLine (g : Nat → Nat) (e : SourceError) :
    (e.mapLine g).line? = e.line?.map g := by
  cases e <;> rfl

/-- **The error of a field is reported exactly if what follows can be divided into declarations.**
If it cannot, the error of this division is reported, on the line where it is now. -/
theorem compile_error_append_iff {t₁ : String} {o : Options} {ds : List Declaration}
    {e : SourceError} (ho : Name.isIdentifier o.className.toList = true)
    (hds : declarations t₁ = .ok ds) (he : compile t₁ o = .error e) (t₂ : String) :
    (compile (t₁ ++ "\n" ++ t₂) o = .error e ↔ ∃ es, declarations t₂ = .ok es) ∧
      ∀ e', declarations t₂ = .error e' → compile (t₁ ++ "\n" ++ t₂) o =
        .error (e'.mapLine (· + (t₁.toList.count '\n' + 1))) := by
  rw [compile_of_isIdentifier ho, hds] at he
  have hmasked : ∀ e', declarations t₂ = .error e' → compile (t₁ ++ "\n" ++ t₂) o =
      .error (e'.mapLine (· + (t₁.toList.count '\n' + 1))) := by
    intro e' h
    rw [compile_of_isIdentifier ho, declarations, readDeclarations_append hds,
      Progress.toExcept_prepend, Progress.toExcept_map, ← declarations, h]
    rfl
  refine ⟨⟨fun h => ?_, ?_⟩, hmasked⟩
  · cases ht₂ : declarations t₂ with
    | ok es => exact ⟨es, rfl⟩
    | error e' =>
      -- the error of the second text has a line behind all lines of the first
      rw [hmasked e' ht₂, Except.error.injEq] at h
      obtain ⟨k, hk, hpos, _⟩ := Declaration.exists_line? ht₂
      have hline : e.line? = some (k + (t₁.toList.count '\n' + 1)) := by
        rw [← h, SourceError.line?_mapLine, hk]
        rfl
      have hle := line?_of_compileDeclarations hds he hline
      omega
  · rintro ⟨es, hes⟩
    rw [compile_of_isIdentifier ho, declarations, readDeclarations_append hds,
      Progress.toExcept_prepend, Progress.toExcept_map, ← declarations, hes]
    exact compileDeclarations_append_eq_error he _

/-- A field without a name, in front of a reference to no model. -/
theorem compile_error_append_reference :
    compile " = F()" ⟨"A", true⟩ = .error (Fault.missingFieldName.onLine 1) ∧
      compile (" = F()" ++ "\n" ++ "a = ForeignKey()") ⟨"A", true⟩ =
        .error (Fault.missingFieldName.onLine 1) := by
  have he : compile " = F()" ⟨"A", true⟩ = .error (Fault.missingFieldName.onLine 1) := rfl
  have hds : declarations " = F()" = .ok [⟨"= F()", 1⟩] := rfl
  exact ⟨he, (compile_error_append_iff rfl hds he "a = ForeignKey()").1.mpr
    ⟨[⟨"a = ForeignKey()", 1⟩], rfl⟩⟩

/-- The error of a field is not the first to be reported: in front of a line without an equals sign,
a field without a name is not found. -/
theorem compile_error_masked :
    declarations " = F()" = .ok [⟨"= F()", 1⟩] ∧
      compile " = F()" ⟨"A", false⟩ = .error (Fault.missingFieldName.onLine 1) ∧
      compile (" = F()" ++ "\n" ++ "b") ⟨"A", false⟩ = .error (.missingAssignment "b" 2) :=
  ⟨rfl, rfl, rfl⟩

end DartModels
