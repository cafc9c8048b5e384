import DartModels.Compilation
import DartModels.Proofs.Declaration.Reading
import DartModels.Proofs.Progress

/-!
# Renumbered lines

The number of a line decides nothing: it is only handed on, to the declaration that starts there, to
its field and the finding about it, or to an error. So if the lines of a text get other numbers, all
that is read gets these numbers (`mapLine`) and stays as it is otherwise.

Results: `readLines_mapLine`, `readFields_mapLine` and `Compilation.ofFields_mapLine`, for the
declarations, the fields, and the class with its findings.
-/

namespace DartModels

/-! ## Other numbers -/

/-- The same declaration on another line. -/
def Declaration.mapLine (g : Nat → Nat) (d : Declaration) : Declaration :=
  { d with line := g d.line }

/-- The same open call, started on another line. -/
def OpenCall.mapLine (g : Nat → Nat) (call : OpenCall) : OpenCall :=
  { call with line := g call.line }

/-- The same field on another line. -/
def Field.mapLine (g : Nat → Nat) (f : Field) : Field :=
  { f with line := g f.line }

/-- The same finding about a field on another line. -/
def Diagnostic.mapLine (g : Nat → Nat) : Diagnostic → Diagnostic
  | unresolvedType field token line => unresolvedType field token (g line)

/-- The same compilation on other lines. -/
def Compilation.mapLine (g : Nat → Nat) (c : Compilation) : Compilation :=
  ⟨⟨c.model.name, c.model.fields.map (Field.mapLine g)⟩, c.diagnostics.map (Diagnostic.mapLine g)⟩

/-- The same error on another line, if it has one. -/
def SourceError.mapLine (g : Nat → Nat) : SourceError → SourceError
  | malformed reason line => malformed reason (g line)
  | missingAssignment text line => missingAssignment text (g line)
  | missingReference field => missingReference field
  | invalidClassName name => invalidClassName name

/-! ## Declarations -/

namespace Declaration

open Text

theorem startLine_mapLine (g : Nat → Nat) (n : Nat) (line : List Char) :
    startLine (g n) line =
      ((startLine n line).map (Sum.map (mapLine g) (OpenCall.mapLine g))).mapError
        (SourceError.mapLine g) := by
  unfold startLine
  cases cut? '=' line with
  | none => rfl
  | some p =>
    simp only
    cases scan 0 p.2 with
    | error f => rfl
    | ok r =>
      cases r with
      | closed kept => rfl
      | pending d kept => cases d <;> rfl

theorem push_mapLine (g : Nat → Nat) (call : OpenCall) (part : List Char) :
    (call.mapLine g).push part = (call.push part).mapLine g := by
  unfold OpenCall.push
  split <;> rfl

theorem continueLine_mapLine (g : Nat → Nat) (call : OpenCall) (n : Nat) (line : List Char) :
    (call.mapLine g).continueLine (g n) line =
      ((call.continueLine n line).map (Sum.map (mapLine g) (OpenCall.mapLine g))).mapError
        (SourceError.mapLine g) := by
  have hd : (call.mapLine g).depth = call.depth := rfl
  unfold OpenCall.continueLine
  rw [hd]
  cases scan call.depth line with
  | error f => rfl
  | ok r =>
    cases r with
    | closed kept =>
      simp only [push_mapLine]
      rfl
    | pending d kept =>
      simp only [push_mapLine]
      rfl

/-- **A step hands the numbers on.** -/
theorem readLine_mapLine (g : Nat → Nat) (state : Option OpenCall) (n : Nat) (line : List Char) :
    readLine (state.map (OpenCall.mapLine g)) (g n) line =
      ((readLine state n line).map (Sum.map (mapLine g) (OpenCall.mapLine g))).mapError
        (SourceError.mapLine g) := by
  cases state with
  | none => exact startLine_mapLine g n line
  | some call => exact continueLine_mapLine g call n line

/-- **Renumbered lines are read as the same declarations, on their lines.** -/
theorem readLines_mapLine (g : Nat → Nat) (state : Option OpenCall)
    (ls : List (Nat × List Char)) :
    readLines (state.map (OpenCall.mapLine g)) (ls.map fun p => (g p.1, p.2)) =
      (readLines state ls).map (mapLine g) (SourceError.mapLine g) := by
  induction state, ls using readLines_induction with
  | nil state => cases state <;> rfl
  | void state n line ls hv ih => rw [List.map_cons, readLines_void hv, readLines_void hv, ih]
  | error state n line ls e hv hr =>
    have hstep := readLine_mapLine g state n line
    rw [hr] at hstep
    rw [List.map_cons, readLines_error hv hr, readLines_error hv hstep]
    rfl
  | finished state n line ls d hv hr ih =>
    have hstep := readLine_mapLine g state n line
    rw [hr] at hstep
    rw [Option.map_none] at ih
    rw [List.map_cons, readLines_finished hv hr, readLines_finished hv hstep, ih]
    rfl
  | opened state n line ls call hv hr ih =>
    have hstep := readLine_mapLine g state n line
    rw [hr] at hstep
    rw [List.map_cons, readLines_opened hv hr, readLines_opened hv hstep, ← ih, Option.map_some]

end Declaration

/-! ## Fields and findings -/

theorem referenced_mapLine (g : Nat → Nat) (call : Call) (field : String) :
    (call.referenced field).mapError (SourceError.mapLine g) = call.referenced field := by
  unfold Call.referenced
  split
  · split <;> rfl
  · rfl

namespace Field

theorem ofCall_mapLine (g : Nat → Nat) (name member : List Char) (call : Call) (n : Nat) :
    ofCall name member call (g n) =
      ((ofCall name member call n).map (mapLine g)).mapError (SourceError.mapLine g) := by
  have h := referenced_mapLine g call (String.ofList name)
  simp only [ofCall]
  cases hr : call.referenced (String.ofList name) with
  | error e =>
    rw [hr] at h
    have he : e.mapLine g = e := Except.error.inj h
    exact congrArg Except.error he.symm
  | ok r => rfl

theorem ofText_mapLine (g : Nat → Nat) (text : String) (n : Nat) (camelCase : Bool) :
    ofText text (g n) camelCase =
      ((ofText text n camelCase).map (Option.map (mapLine g))).mapError
        (SourceError.mapLine g) := by
  unfold ofText
  split
  · rfl
  · simp only
    split
    · rfl
    · split
      · rfl
      · split
        · rfl
        · rw [ofCall_mapLine]
          cases ofCall _ _ _ n <;> rfl

theorem ofDeclaration_mapLine (g : Nat → Nat) (camelCase : Bool) (d : Declaration) :
    ofDeclaration camelCase (d.mapLine g) =
      ((ofDeclaration camelCase d).map (Option.map (mapLine g))).mapError (SourceError.mapLine g) :=
  ofText_mapLine g d.text d.line camelCase

end Field

/-- **Renumbered declarations are read as the same fields, on their lines.** -/
theorem readFields_mapLine (g : Nat → Nat) (camelCase : Bool) (ds : List Declaration) :
    readFields camelCase (ds.map (Declaration.mapLine g)) =
      (readFields camelCase ds).map (Field.mapLine g) (SourceError.mapLine g) := by
  unfold readFields
  induction ds with
  | nil => rfl
  | cons d ds ih =>
    rw [List.map_cons, Progress.ofList, Progress.ofList, Field.ofDeclaration_mapLine, ih]
    rcases Field.ofDeclaration camelCase d with e | _ | f <;> rfl

theorem Diagnostic.ofField?_mapLine (g : Nat → Nat) (f : Field) :
    ofField? (f.mapLine g) = (ofField? f).map (mapLine g) := by
  have ht : (f.mapLine g).type = f.type := rfl
  unfold ofField?
  rw [ht]
  split <;> rfl

theorem Diagnostic.ofFields_mapLine (g : Nat → Nat) (fs : List Field) :
    ofFields (fs.map (Field.mapLine g)) = (ofFields fs).map (mapLine g) := by
  unfold ofFields
  rw [List.filterMap_map, List.map_filterMap]
  exact List.filterMap_congr fun f _ => ofField?_mapLine g f

/-- **Renumbered fields make the same class with the same findings, on their lines.** -/
theorem Compilation.ofFields_mapLine (g : Nat → Nat) (className : String) (fs : List Field) :
    ofFields className (fs.map (Field.mapLine g)) = (ofFields className fs).mapLine g := by
  unfold ofFields
  rw [Diagnostic.ofFields_mapLine]
  rfl

end DartModels
