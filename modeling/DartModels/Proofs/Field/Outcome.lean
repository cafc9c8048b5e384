import DartModels.Field.Parse

/-!
# What becomes of a declaration's text

A text that is not void and has an equals sign is read as a field of the name before the first one,
or the name is at fault, in the source or in camel case, or a reference names no model (`Outcome`).
Nothing else can happen (`outcome_ofText`). In particular such a text is never passed over, and
never lacks an assignment (`Outcome.ne_none`, `Outcome.ne_missingAssignment`).

When a text is read as a field, and as which, is `ofText_eq_some_iff`.
-/

namespace DartModels

open Text

namespace Field

theorem ofCall_eq_ok_iff {name member : List Char} {call : Call} {line : Nat} {f : Field} :
    ofCall name member call line = .ok f ↔
      ∃ referenced, call.referenced (String.ofList name) = .ok referenced ∧
        f = ⟨String.ofList name, String.ofList member, String.ofList call.token, referenced,
          DartType.ofToken (String.ofList call.token) referenced, line⟩ := by
  simp only [ofCall]
  cases call.referenced (String.ofList name) with
  | error e => simp [Except.map]
  | ok referenced => simp [Except.map, eq_comm]

/-- **A text is read as a field** if it is not void and has a name before its first equals sign, of
which something is left in the member's name, and the call behind the equals sign names a model if
it is a reference. -/
theorem ofText_eq_some_iff {text : String} {line : Nat} {camelCase : Bool} {f : Field} :
    ofText text line camelCase = .ok (some f) ↔ isVoid text.toList = false ∧
      ∃ left right, cut? '=' (trim text.toList) = some (left, right) ∧ trim left ≠ [] ∧
        memberNameOf camelCase (trim left) ≠ [] ∧
        ofCall (trim left) (memberNameOf camelCase (trim left))
          ((Call.ofText? (trim right)).getD ⟨[], []⟩) line = .ok f := by
  cases hv : isVoid text.toList with
  | true => simp [ofText, hv]
  | false =>
    cases hc : cut? '=' (trim text.toList) with
    | none => simp [ofText, hv, hc]
    | some p =>
      obtain ⟨left, right⟩ := p
      by_cases hname : trim left = []
      · simp [ofText, hv, hc, hname]
      by_cases hmember : memberNameOf camelCase (trim left) = []
      · simp [ofText, hv, hc, hname, hmember]
      have hread : ofText text line camelCase =
          (ofCall (trim left) (memberNameOf camelCase (trim left))
            ((Call.ofText? (trim right)).getD ⟨[], []⟩) line).map some := by
        simp [ofText, hv, hc, hname, hmember]
      rw [hread]
      constructor
      · intro h
        refine ⟨rfl, left, right, rfl, hname, hmember, ?_⟩
        cases hcall : ofCall (trim left) (memberNameOf camelCase (trim left))
            ((Call.ofText? (trim right)).getD ⟨[], []⟩) line with
        | error e =>
          rw [hcall] at h
          cases h
        | ok g =>
          rw [hcall] at h
          rw [Option.some.inj (Except.ok.inj h)]
      · rintro ⟨-, left', right', hsplit, -, -, hcall⟩
        obtain ⟨rfl, rfl⟩ := Prod.mk.inj (Option.some.inj hsplit)
        rw [hcall]
        rfl

end Field

/-- What a text can be read as if `name` stands before its equals sign. -/
inductive Outcome (name : List Char) (line : Nat) (camelCase : Bool) :
    Except SourceError (Option Field) → Prop
  /-- A field of this name, on this line. -/
  | field {f : Field} (hname : name ≠ []) (hmember : memberNameOf camelCase name ≠ [])
      (hsource : f.sourceName = String.ofList name)
      (houtput : f.memberName = String.ofList (memberNameOf camelCase name))
      (hline : f.line = line) : Outcome name line camelCase (.ok (some f))
  /-- There is no name. -/
  | missingName (hname : name = []) :
      Outcome name line camelCase (.error (Fault.missingFieldName.onLine line))
  /-- Nothing is left of the name in camel case. -/
  | emptyMember (hname : name ≠ []) (hmember : memberNameOf camelCase name = []) :
      Outcome name line camelCase
        (.error ((Fault.emptyMemberName (String.ofList name)).onLine line))
  /-- A reference to no model. -/
  | missingReference (hname : name ≠ []) (hmember : memberNameOf camelCase name ≠ []) :
      Outcome name line camelCase (.error (.missingReference (String.ofList name)))

theorem referenced_cases (call : Call) (field : String) :
    (∃ r, call.referenced field = .ok r) ∨
      call.referenced field = .error (.missingReference field) := by
  unfold Call.referenced
  split
  · split
    · exact Or.inr rfl
    · exact Or.inl ⟨_, rfl⟩
  · exact Or.inl ⟨none, rfl⟩

theorem outcome_ofCall {name : List Char} {camelCase : Bool} (hname : name ≠ [])
    (hmember : memberNameOf camelCase name ≠ []) (call : Call) (line : Nat) :
    Outcome name line camelCase
      ((Field.ofCall name (memberNameOf camelCase name) call line).map some) := by
  unfold Field.ofCall
  rcases referenced_cases call (String.ofList name) with ⟨r, hr⟩ | hr
  · simp only [hr, Except.map]
    exact .field hname hmember rfl rfl rfl
  · simp only [hr, Except.map]
    exact .missingReference hname hmember

/-- **A text with an equals sign is read as a field, or its name or its reference is at fault.** -/
theorem outcome_ofText {text : String} {left right : List Char} (hv : isVoid text.toList = false)
    (hc : cut? '=' (trim text.toList) = some (left, right)) (line : Nat) (camelCase : Bool) :
    Outcome (trim left) line camelCase (Field.ofText text line camelCase) := by
  simp only [Field.ofText, hv, hc, Bool.false_eq_true, if_false]
  split
  · rename_i hname
    exact .missingName hname
  · rename_i hname
    split
    · rename_i hmember
      exact .emptyMember hname hmember
    · rename_i hmember
      exact outcome_ofCall hname hmember _ line

namespace Outcome

variable {name : List Char} {line : Nat} {camelCase : Bool}

theorem ne_none {r : Except SourceError (Option Field)} (h : Outcome name line camelCase r) :
    r ≠ .ok none := by
  rintro rfl
  cases h

theorem ne_missingAssignment {r : Except SourceError (Option Field)}
    (h : Outcome name line camelCase r) (text : String) (n : Nat) :
    r ≠ .error (.missingAssignment text n) := by
  rintro rfl
  generalize hr : Except.error (SourceError.missingAssignment text n) = r at h
  cases h <;> cases hr

theorem eq_of_field {f : Field} (h : Outcome name line camelCase (.ok (some f))) :
    f.sourceName = String.ofList name ∧ f.line = line := by
  cases h with
  | field _ _ hsource _ hline => exact ⟨hsource, hline⟩

end Outcome

end DartModels
