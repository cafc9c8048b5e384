/-!
# Cutting a text at a character

Result: `cut?` finds the first occurrence and nothing else (`cut?_eq_some_iff`), and fails exactly
where there is none (`cut?_eq_none_iff`).
-/

namespace DartModels.Text

/-- What stands before and behind the first occurrence of a character (`str::split_once`). -/
def cut? (c : Char) : List Char → Option (List Char × List Char)
  | [] => none
  | d :: s => if d = c then some ([], s) else (cut? c s).map fun (a, b) => (d :: a, b)

theorem cut?_eq_none_iff {c : Char} {s : List Char} : cut? c s = none ↔ c ∉ s := by
  induction s with
  | nil => simp [cut?]
  | cons d s ih =>
    rw [cut?, List.mem_cons, not_or]
    split
    · rename_i h
      simp [h]
    · rename_i h
      simp [ih, Ne.symm h]

theorem cut?_append {c : Char} {a : List Char} (h : c ∉ a) (b : List Char) :
    cut? c (a ++ c :: b) = some (a, b) := by
  induction a with
  | nil => simp [cut?]
  | cons d a ih =>
    rw [List.mem_cons, not_or] at h
    simp [cut?, Ne.symm h.1, ih h.2]

theorem cut?_eq_some_iff {c : Char} {s a b : List Char} :
    cut? c s = some (a, b) ↔ s = a ++ c :: b ∧ c ∉ a := by
  constructor
  · intro h
    induction s generalizing a with
    | nil => simp [cut?] at h
    | cons d s ih =>
      rw [cut?] at h
      split at h
      · rename_i hd
        simp only [Option.some.injEq, Prod.mk.injEq] at h
        obtain ⟨rfl, rfl⟩ := h
        simp [hd]
      · rename_i hd
        obtain ⟨⟨a', b'⟩, h', e⟩ := Option.map_eq_some_iff.mp h
        simp only [Prod.mk.injEq] at e
        obtain ⟨rfl, rfl⟩ := e
        obtain ⟨rfl, ha⟩ := ih h'
        exact ⟨rfl, by simp [ha, Ne.symm hd]⟩
  · rintro ⟨rfl, h⟩
    exact cut?_append h b

end DartModels.Text
