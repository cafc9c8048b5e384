import DartModels.Command.Run
import DartModels.Proofs.Json.Layout

/-!
# Compilations as JSON lose nothing

Everything that a compilation holds is in its JSON: the values of all keys, a type by its kind and
its name if it has one, and a class that is not referred to as `null`, which is no text. Since a
value of JSON can be told from its text, so can the compilation.

Results: `toJson_injective` for types, fields, classes, findings and compilations;
`json_lossless`, for the text of a compilation and for what a run prints of it.
-/

namespace DartModels

theorem Json.ofOption_injective : Function.Injective Json.ofOption := by
  intro a b h
  cases a with
  | none =>
    cases b with
    | none => rfl
    | some t => cases h
  | some s =>
    cases b with
    | none => cases h
    | some t => rw [Json.str.inj h]

/-- The kinds of types are told apart, and the type by its name. -/
theorem DartType.toJson_injective : Function.Injective DartType.toJson := by
  intro t u h
  cases t <;> cases u <;> simp_all [toJson]

theorem Field.toJson_injective : Function.Injective Field.toJson := by
  rintro ⟨source, member, token, referenced, type, line⟩ ⟨source', member', token', referenced',
    type', line'⟩ h
  simp only [toJson, Json.obj.injEq, List.cons.injEq, Prod.mk.injEq, Json.str.injEq,
    Json.nat.injEq, true_and, and_true] at h
  obtain ⟨rfl, rfl, rfl, hreferenced, htype, rfl⟩ := h
  rw [Json.ofOption_injective hreferenced, DartType.toJson_injective htype]

theorem DartClass.toJson_injective : Function.Injective DartClass.toJson := by
  rintro ⟨name, fields⟩ ⟨name', fields'⟩ h
  simp only [toJson, Json.obj.injEq, List.cons.injEq, Prod.mk.injEq, Json.str.injEq,
    Json.arr.injEq, true_and, and_true] at h
  obtain ⟨rfl, hfields⟩ := h
  rw [(List.map_inj_right fun _ _ => @Field.toJson_injective _ _).mp hfields]

theorem Diagnostic.toJson_injective : Function.Injective Diagnostic.toJson := by
  rintro ⟨field, token, line⟩ ⟨field', token', line'⟩ h
  simp only [toJson, Json.obj.injEq, List.cons.injEq, Prod.mk.injEq, Json.str.injEq,
    Json.nat.injEq, true_and, and_true] at h
  obtain ⟨rfl, rfl, rfl⟩ := h
  rfl

theorem Compilation.toJson_injective : Function.Injective Compilation.toJson := by
  rintro ⟨model, diagnostics⟩ ⟨model', diagnostics'⟩ h
  simp only [toJson, Json.obj.injEq, List.cons.injEq, Prod.mk.injEq, Json.arr.injEq, true_and,
    and_true] at h
  obtain ⟨hmodel, hdiagnostics⟩ := h
  rw [DartClass.toJson_injective hmodel,
    (List.map_inj_right fun _ _ => @Diagnostic.toJson_injective _ _).mp hdiagnostics]

theorem Compilation.pretty_injective : Function.Injective Compilation.pretty :=
  Json.pretty_injective.comp Compilation.toJson_injective

open Command in
/-- **The JSON of a compilation loses nothing.** Two compilations with the same indented text are
the same, whatever their strings hold, and so are two of which a run that is asked for JSON prints
the same. -/
theorem json_lossless :
    (∀ c c' : Compilation, c.pretty = c'.pretty → c = c') ∧
      ∀ i : Invocation, i.json = true → ∀ c c' : Compilation,
        Run.render i c = Run.render i c' → c = c' := by
  refine ⟨fun c c' h => Compilation.pretty_injective h, fun i hi c c' h => ?_⟩
  unfold Run.render at h
  rw [if_pos hi, if_pos hi, String.append_left_inj] at h
  exact Compilation.pretty_injective h

open Command in
/-- A name that imitates the layout behind it, and a class with the name `null` beside none. -/
theorem json_lossless_imitation :
    (Compilation.ofFields "A" [⟨"a\",\n        \"output_name\": \"b", "c", "F", none,
          .unresolved, 1⟩]).pretty ≠
        (Compilation.ofFields "A" [⟨"a", "b", "F", none, .unresolved, 1⟩]).pretty ∧
      Run.render ⟨"A", false, some "-", "vim", false, ".", true, 0⟩
          (Compilation.ofFields "A" [⟨"a", "a", "F", some "null", .unresolved, 12⟩]) ≠
        Run.render ⟨"A", false, some "-", "vim", false, ".", true, 0⟩
          (Compilation.ofFields "A" [⟨"a", "a", "F", none, .unresolved, 12⟩]) := by
  refine ⟨fun h => ?_, fun h => ?_⟩
  · exact absurd (json_lossless.1 _ _ h) (by decide)
  · exact absurd (json_lossless.2 _ rfl _ _ h) (by decide)

end DartModels
