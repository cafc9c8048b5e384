import DartModels.Proofs.Name
import DartModels.Proofs.Name.CamelCase
import DartModels.Proofs.Text.Joining

/-!
# Conventional names and their way back from camel case

A conventional name has lower case letters and digits in its segments, and each segment starts with
a letter. So in camel case the capitals are just the places where an underscore stood, and
`snakeCase` puts it back. This fails as soon as a segment is empty or starts with a digit, for then
nothing tells where the underscore was.

Results:
* `snakeCase_joinSegments`: the segments of a conventional name are found again;
* `snakeCase_camelCase`, `camelCase_inj`: a conventional name is read back from camel case, so no
  two of them have the same.
-/

namespace DartModels.Name

open Text

/-- A lower case letter, and behind it lower case letters and digits. -/
def isConventionalSegment : List Char → Bool
  | [] => false
  | c :: w => c.isLower && w.all fun d => d.isLower || d.isDigit

/-- The names of the form `[a-z][a-z0-9]*(_[a-z][a-z0-9]*)*`. -/
def isConventional (s : List Char) : Bool :=
  (s.splitOn '_').all isConventionalSegment

/-- Puts an underscore in front of each capital, and the capital into lower case. -/
def snakeCase (s : List Char) : List Char :=
  s.flatMap fun c => if c.isUpper then ['_', c.toLower] else [c]

theorem snakeCase_append (s t : List Char) : snakeCase (s ++ t) = snakeCase s ++ snakeCase t :=
  List.flatMap_append

/-! ## Characters -/

theorem upper_of_isLower {c : Char} (h : c.isLower = true) : upper c = [c.toUpper] := by
  have hlast := (isLower_iff.mp h).2
  exact upper_of_ascii (by omega)

/-- Nothing is done to a character that is no capital. -/
theorem snakeCase_of_not_isUpper {w : List Char} (h : ∀ c ∈ w, c.isUpper = false) :
    snakeCase w = w := by
  induction w with
  | nil => rfl
  | cons c w ih =>
    obtain ⟨hc, hw⟩ := List.forall_mem_cons.mp h
    have ih := ih hw
    unfold snakeCase at ih ⊢
    rw [List.flatMap_cons, ih, hc]
    rfl

/-! ## Segments -/

theorem not_isUpper_of_isConventionalSegment {w : List Char}
    (h : isConventionalSegment w = true) : ∀ c ∈ w, c.isUpper = false := by
  cases w with
  | nil => cases h
  | cons d w =>
    rw [isConventionalSegment, Bool.and_eq_true, List.all_eq_true] at h
    refine List.forall_mem_cons.mpr ⟨not_isUpper_of_isLower h.1, fun c hc => ?_⟩
    rcases (Bool.or_eq_true _ _).mp (h.2 c hc) with hc | hc
    · exact not_isUpper_of_isLower hc
    · exact not_isUpper_of_isDigit hc

theorem snakeCase_of_isConventionalSegment {w : List Char} (h : isConventionalSegment w = true) :
    snakeCase w = w :=
  snakeCase_of_not_isUpper (not_isUpper_of_isConventionalSegment h)

/-- The capital of a segment becomes its underscore. -/
theorem snakeCase_capitalize {w : List Char} (h : isConventionalSegment w = true) :
    snakeCase (capitalize w) = '_' :: w := by
  have hupper := not_isUpper_of_isConventionalSegment h
  cases w with
  | nil => cases h
  | cons c w =>
    rw [isConventionalSegment, Bool.and_eq_true] at h
    have hfirst : snakeCase [c.toUpper] = ['_', c] := by
      simp [snakeCase, isUpper_toUpper h.1, toLower_toUpper h.1]
    rw [capitalize, upper_of_isLower h.1, snakeCase_append, hfirst,
      snakeCase_of_not_isUpper (List.forall_mem_cons.mp hupper).2]
    rfl

theorem snakeCase_flatMap_capitalize {ws : List (List Char)}
    (h : ∀ w ∈ ws, isConventionalSegment w = true) :
    snakeCase (ws.flatMap capitalize) = ws.flatMap ('_' :: ·) := by
  induction ws with
  | nil => rfl
  | cons w ws ih =>
    obtain ⟨hw, hws⟩ := List.forall_mem_cons.mp h
    rw [List.flatMap_cons, snakeCase_append, snakeCase_capitalize hw, ih hws, List.flatMap_cons]

/-- **The segments of a conventional name are found again.** -/
theorem snakeCase_joinSegments {ws : List (List Char)}
    (h : ∀ w ∈ ws, isConventionalSegment w = true) :
    snakeCase (joinSegments ws) = ['_'].intercalate ws := by
  cases ws with
  | nil => rfl
  | cons w ws =>
    obtain ⟨hw, hws⟩ := List.forall_mem_cons.mp h
    rw [joinSegments, snakeCase_append, snakeCase_of_isConventionalSegment hw,
      snakeCase_flatMap_capitalize hws, intercalate_cons_eq_flatMap]

/-! ## Names -/

/-- **A conventional name is read back from camel case.** -/
theorem snakeCase_camelCase {s : List Char} (h : isConventional s = true) :
    snakeCase (camelCase s) = s := by
  rw [camelCase_eq_joinSegments, snakeCase_joinSegments (List.all_eq_true.mp h),
    List.intercalate_splitOn]

/-- **No two conventional names are the same in camel case.** -/
theorem camelCase_inj {s t : List Char} (hs : isConventional s = true)
    (ht : isConventional t = true) (h : camelCase s = camelCase t) : s = t := by
  rw [← snakeCase_camelCase hs, h, snakeCase_camelCase ht]

/-- Segments that are empty or start with a digit are not told from none. -/
example : camelCase "a__b".toList = camelCase "a_b".toList ∧
    camelCase "a_1".toList = camelCase "a1".toList := by decide

/-- A conventional name does not consist of underscores. -/
theorem exists_ne_underscore_of_isConventional {s : List Char} (h : isConventional s = true) :
    ∃ c ∈ s, c ≠ '_' := by
  refine Classical.byContradiction fun hnone => ?_
  have hall : ∀ c ∈ s, c = '_' := fun c hc =>
    Decidable.byContradiction fun hne => hnone ⟨c, hc, hne⟩
  have hnil := snakeCase_camelCase h
  rw [camelCase_eq_nil_iff.mpr hall] at hnil
  rw [← hnil] at h
  cases h

end DartModels.Name
