import DartModels.Text.Blank

/-!
# Void lines

Lines of a model's source that hold nothing but white space or a comment say nothing, wherever they
stand: `segment_declarations` passes over them in front of a declaration and inside of one, and
`parse_declaration` reads no field from them.

Result: a line is void exactly if, trimmed, it is empty or starts with a number sign (`isVoid_iff`).
-/

namespace DartModels.Text

/-- Nothing but white space, or white space and a comment. -/
def isVoid (s : List Char) : Bool :=
  match trimStart s with
  | [] => true
  | c :: _ => c == '#'

theorem head_trimEnd {c : Char} (h : isBlank c = false) (s : List Char) :
    ∃ t, trimEnd (c :: s) = c :: t := by
  obtain ⟨b, hb, hs⟩ := trimEnd_split (c :: s)
  cases ht : trimEnd (c :: s) with
  | nil =>
    rw [ht, List.nil_append] at hs
    have := hb c (hs ▸ List.mem_cons_self)
    simp [h] at this
  | cons d t =>
    rw [ht, List.cons_append, List.cons.injEq] at hs
    exact ⟨t, by rw [hs.1]⟩

theorem isVoid_iff {s : List Char} :
    isVoid s = true ↔ trim s = [] ∨ (trim s).head? = some '#' := by
  unfold isVoid trim
  cases h : trimStart s with
  | nil => simp
  | cons c t =>
    have hc : isBlank c = false := head_trimStart (s := s) (by rw [h]; rfl)
    obtain ⟨u, hu⟩ := head_trimEnd hc t
    simp [hu]

end DartModels.Text
