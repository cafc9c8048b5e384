import DartModels.Name

/-!
# The laws of camel case

An underscore divides a name into segments, of which any may be empty. In camel case the first
segment stays as it is, behind it come the others with their first characters in upper case, and an
empty segment adds nothing.

Three laws say so from the end of the name (`CamelCaseLaws`): a name without underscores stays, an
underscore at the end is forgotten, and behind any other the character that follows is raised. Every
name has one of these three forms, so nothing else obeys the laws, and what camel case does to any
name follows from them.

Results:
* `camelCase_eq_joinSegments`: a name is put into camel case segment by segment;
* `induction_lastUnderscore`: a name has no underscore, ends in one, or has its last one inside;
* `CamelCaseLaws.underscore_not_mem`, `CamelCaseLaws.unique`: the laws leave no underscore, and only
  one function obeys them;
* `camelCase_laws`: camel case obeys the laws, and a second time it changes nothing.
-/

namespace DartModels.Name

open Text

/-! ## Segments -/

/-- A segment behind an underscore: its first character in upper case. -/
def capitalize : List Char → List Char
  | [] => []
  | c :: w => upper c ++ w

/-- The first segment as it is, and behind it the others, capitalized. -/
def joinSegments : List (List Char) → List Char
  | [] => []
  | w :: ws => w ++ ws.flatMap capitalize

theorem camelCaseFrom_of_not_mem {w : List Char} (h : '_' ∉ w) (raised : Bool) :
    camelCaseFrom raised w = if raised then capitalize w else w := by
  cases raised with
  | false => exact camelCaseFrom_false_of_not_mem h
  | true =>
    cases w with
    | nil => rfl
    | cons c w =>
      rw [List.mem_cons, not_or] at h
      rw [camelCaseFrom, if_neg (Ne.symm h.1), camelCaseFrom_false_of_not_mem h.2]
      rfl

theorem camelCaseFrom_intercalate {w : List Char} {ws : List (List Char)}
    (h : ∀ v ∈ w :: ws, '_' ∉ v) (raised : Bool) :
    camelCaseFrom raised (['_'].intercalate (w :: ws)) =
      (if raised then capitalize w else w) ++ ws.flatMap capitalize := by
  induction ws generalizing w raised with
  | nil =>
    rw [List.intercalate_singleton, List.flatMap_nil, List.append_nil,
      camelCaseFrom_of_not_mem (h w List.mem_cons_self)]
  | cons v vs ih =>
    obtain ⟨hw, hvs⟩ := List.forall_mem_cons.mp h
    rw [List.intercalate_cons_cons, List.append_assoc, List.singleton_append,
      camelCaseFrom_append_underscore, camelCaseFrom_of_not_mem hw, ih hvs, List.flatMap_cons]
    rfl

/-- Segments with underscores between them are put into camel case one by one. -/
theorem camelCase_intercalate {ws : List (List Char)} (h : ∀ w ∈ ws, '_' ∉ w) :
    camelCase (['_'].intercalate ws) = joinSegments ws := by
  cases ws with
  | nil => rfl
  | cons w ws => exact camelCaseFrom_intercalate h false

/-- A segment has no underscore. -/
theorem underscore_not_mem_of_mem_splitOn {s w : List Char} (h : w ∈ s.splitOn '_') : '_' ∉ w := by
  induction s generalizing w with
  | nil => simp_all
  | cons c s ih =>
    obtain ⟨v, vs, hs⟩ := List.exists_cons_of_ne_nil (List.splitOn_ne_nil '_' s)
    rw [List.splitOn_cons_eq_if_modifyHead, hs] at h
    rw [hs] at ih
    split at h
    · rcases List.mem_cons.mp h with rfl | h
      · exact List.not_mem_nil
      · exact ih h
    · rename_i hc
      rcases List.mem_cons.mp h with rfl | h
      · rw [List.mem_cons, not_or]
        exact ⟨fun e => hc (by simp [← e]), ih List.mem_cons_self⟩
      · exact ih (List.mem_cons_of_mem v h)

/-- **A name is put into camel case segment by segment.** -/
theorem camelCase_eq_joinSegments (s : List Char) : camelCase s = joinSegments (s.splitOn '_') := by
  have h := camelCase_intercalate fun w hw => underscore_not_mem_of_mem_splitOn (s := s) hw
  rwa [List.intercalate_splitOn] at h

/-! ## Laws -/

/-- What a function has to do to be camel case. -/
structure CamelCaseLaws (f : List Char → List Char) : Prop where
  /-- A name without underscores stays as it is. -/
  of_not_mem : ∀ w, '_' ∉ w → f w = w
  /-- An underscore at the end is forgotten. -/
  concat_underscore : ∀ a, f (a ++ ['_']) = f a
  /-- The character behind an underscore is raised. -/
  append_underscore_cons : ∀ a c w, c ≠ '_' → '_' ∉ w → f (a ++ '_' :: c :: w) = f a ++ upper c ++ w

/-- A name has no underscore, or a last one. -/
theorem exists_lastUnderscore {s : List Char} (h : '_' ∈ s) :
    ∃ a w, s = a ++ '_' :: w ∧ '_' ∉ w := by
  obtain ⟨w, a, hs, hw⟩ := List.eq_append_cons_of_mem (List.mem_reverse.mpr h)
  refine ⟨a.reverse, w.reverse, ?_, fun hm => hw (List.mem_reverse.mp hm)⟩
  rw [← List.reverse_reverse s, hs]
  simp

/-- **Induction on a name from its last underscore.** -/
theorem induction_lastUnderscore {P : List Char → Prop} (whole : ∀ w, '_' ∉ w → P w)
    (last : ∀ a, P a → P (a ++ ['_']))
    (inner : ∀ a c w, c ≠ '_' → '_' ∉ w → P a → P (a ++ '_' :: c :: w)) (s : List Char) : P s := by
  induction hn : s.length using Nat.strongRecOn generalizing s with
  | ind n ih =>
    by_cases hs : '_' ∈ s
    · obtain ⟨a, w, rfl, hw⟩ := exists_lastUnderscore hs
      rw [List.length_append, List.length_cons] at hn
      have ha := ih a.length (by omega) a rfl
      cases w with
      | nil => exact last a ha
      | cons c w =>
        rw [List.mem_cons, not_or] at hw
        exact inner a c w (Ne.symm hw.1) hw.2 ha
    · exact whole s hs

namespace CamelCaseLaws

variable {f : List Char → List Char}

/-- No underscore is left under the laws. -/
theorem underscore_not_mem (h : CamelCaseLaws f) (s : List Char) : '_' ∉ f s := by
  induction s using induction_lastUnderscore with
  | whole w hw => rwa [h.of_not_mem w hw]
  | last a ih => rwa [h.concat_underscore]
  | inner a c w hc hw ih =>
    rw [h.append_underscore_cons a c w hc hw, List.mem_append, List.mem_append, not_or, not_or]
    exact ⟨⟨ih, not_mem_upper hc (by decide) (by decide)⟩, hw⟩

/-- A second time, nothing changes under the laws. -/
theorem idempotent (h : CamelCaseLaws f) (s : List Char) : f (f s) = f s :=
  h.of_not_mem _ (h.underscore_not_mem s)

/-- **Two functions that obey the laws are the same.** -/
theorem unique {g : List Char → List Char} (h : CamelCaseLaws f) (hg : CamelCaseLaws g) : f = g := by
  funext s
  induction s using induction_lastUnderscore with
  | whole w hw => rw [h.of_not_mem w hw, hg.of_not_mem w hw]
  | last a ih => rw [h.concat_underscore, hg.concat_underscore, ih]
  | inner a c w hc hw ih =>
    rw [h.append_underscore_cons a c w hc hw, hg.append_underscore_cons a c w hc hw, ih]

end CamelCaseLaws

theorem camelCaseLaws_camelCase : CamelCaseLaws camelCase where
  of_not_mem _ := camelCase_of_not_mem
  concat_underscore := camelCase_concat_underscore
  append_underscore_cons a _ w := camelCase_append_underscore_cons a w

/-- **Camel case obeys its laws**, and nothing else does. So it leaves no underscore, and a second
time it changes nothing. -/
theorem camelCase_laws :
    CamelCaseLaws camelCase ∧ (∀ f, CamelCaseLaws f → f = camelCase) ∧
      ∀ s, '_' ∉ camelCase s ∧ camelCase (camelCase s) = camelCase s := by
  have h := camelCaseLaws_camelCase
  exact ⟨h, fun f hf => hf.unique h, fun s => ⟨h.underscore_not_mem s, h.idempotent s⟩⟩

/-- A name that starts and ends with an underscore, with two of them in a row inside, and with
letters that several stand for in upper case. The laws hold of camel case by segments. -/
theorem camelCase_laws_underscores :
    camelCase "_ß__ŉa_".toList = "SSʼNa".toList ∧
      (fun s : List Char => joinSegments (s.splitOn '_')) = camelCase := by
  obtain ⟨h, hunique, -⟩ := camelCase_laws
  refine ⟨?_, hunique _ ?_⟩
  · calc camelCase "_ß__ŉa_".toList
        = camelCase "_ß__ŉa".toList := h.concat_underscore "_ß__ŉa".toList
      _ = camelCase "_ß_".toList ++ upper 'ŉ' ++ ['a'] :=
        h.append_underscore_cons "_ß_".toList 'ŉ' ['a'] (by decide) (by decide)
      _ = camelCase "_ß".toList ++ upper 'ŉ' ++ ['a'] := by
        rw [← h.concat_underscore "_ß".toList]
        rfl
      _ = camelCase [] ++ upper 'ß' ++ [] ++ upper 'ŉ' ++ ['a'] := by
        rw [← h.append_underscore_cons [] 'ß' [] (by decide) (by decide)]
        rfl
      _ = "SSʼNa".toList := by
        rw [h.of_not_mem [] (by decide)]
        decide
  · have heq : (fun s : List Char => joinSegments (s.splitOn '_')) = camelCase :=
      funext fun s => (camelCase_eq_joinSegments s).symm
    rw [heq]
    exact h

end DartModels.Name
