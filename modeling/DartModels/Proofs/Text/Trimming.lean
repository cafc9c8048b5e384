import DartModels.Text.Void

/-!
# Trimmed texts

A text is `Trimmed` if neither end of it is blank. Trimming gives such a text, and the only one from
which the given text differs by blanks at its ends; so it does not see blanks that are put there.

Results:
* `trim_eq_iff`: `trim s` is the trimmed text that blanks before and behind it make `s`;
* `trim_blank_append`, `trim_append_blank`: blanks at an end change nothing;
* `isVoid_trim`, `isVoid_append_cons`: a line is void or not by its first character that is not
  blank.
-/

namespace DartModels.Text

/-- White space only. -/
def AllBlank (s : List Char) : Prop :=
  ∀ c ∈ s, isBlank c = true

/-- No blank at either end. -/
structure Trimmed (s : List Char) : Prop where
  head : ∀ c, s.head? = some c → isBlank c = false
  last : ∀ c, s.getLast? = some c → isBlank c = false

theorem AllBlank.nil : AllBlank [] := by
  intro c hc
  exact absurd hc List.not_mem_nil

theorem AllBlank.singleton {c : Char} (hc : isBlank c = true) : AllBlank [c] := by
  intro d hd
  rwa [List.mem_singleton.mp hd]

theorem AllBlank.append {a b : List Char} (ha : AllBlank a) (hb : AllBlank b) :
    AllBlank (a ++ b) := by
  intro c hc
  rcases List.mem_append.mp hc with h | h
  · exact ha c h
  · exact hb c h

theorem AllBlank.of_append_left {a b : List Char} (h : AllBlank (a ++ b)) : AllBlank a :=
  fun c hc => h c (List.mem_append_left b hc)

theorem AllBlank.not_mem {b : List Char} (hb : AllBlank b) {c : Char} (hc : isBlank c = false) :
    c ∉ b := by
  intro h
  rw [hb c h] at hc
  cases hc

/-! ## One end -/

theorem trimStart_blank_append {b : List Char} (hb : AllBlank b) (s : List Char) :
    trimStart (b ++ s) = trimStart s :=
  List.dropWhile_append_of_pos hb

theorem trimEnd_append_blank {b : List Char} (hb : AllBlank b) (s : List Char) :
    trimEnd (s ++ b) = trimEnd s := by
  unfold trimEnd
  rw [List.reverse_append, List.dropWhile_append_of_pos]
  exact fun c hc => hb c (List.mem_reverse.mp hc)

theorem trimEnd_of_allBlank {b : List Char} (hb : AllBlank b) : trimEnd b = [] :=
  trimEnd_append_blank hb []

theorem trimStart_of_head {s : List Char} (h : ∀ c, s.head? = some c → isBlank c = false) :
    trimStart s = s := by
  cases s with
  | nil => rfl
  | cons c s => exact trimStart_cons_of_not_blank (h c rfl) s

theorem trimEnd_of_last {s : List Char} (h : ∀ c, s.getLast? = some c → isBlank c = false) :
    trimEnd s = s := by
  have hr : trimStart s.reverse = s.reverse :=
    trimStart_of_head fun c hc => h c (by rwa [List.head?_reverse] at hc)
  unfold trimEnd
  rw [trimStart] at hr
  rw [hr, List.reverse_reverse]

/-- Trimming the end leaves a head that is not blank where it is. -/
theorem head?_trimEnd {s : List Char} (h : ∀ c, s.head? = some c → isBlank c = false) :
    (trimEnd s).head? = s.head? := by
  cases s with
  | nil => rfl
  | cons c s =>
    obtain ⟨t, ht⟩ := head_trimEnd (h c rfl) s
    rw [ht, List.head?_cons, List.head?_cons]

/-- What stands in front of a character that is not blank is trimmed by itself. -/
theorem trimStart_append_cons {c : Char} (hc : isBlank c = false) (a s : List Char) :
    trimStart (a ++ c :: s) = trimStart a ++ c :: s := by
  unfold trimStart
  rw [List.dropWhile_append]
  split
  · rename_i h
    rw [List.isEmpty_iff] at h
    rw [h, List.nil_append, List.dropWhile_cons_of_neg (by simp [hc])]
  · rfl

/-- What stands behind a character that is not blank is trimmed by itself. -/
theorem trimEnd_append_cons {c : Char} (hc : isBlank c = false) (a s : List Char) :
    trimEnd (a ++ c :: s) = a ++ c :: trimEnd s := by
  have h := trimStart_append_cons hc s.reverse a.reverse
  unfold trimStart at h
  unfold trimEnd
  rw [List.reverse_append, List.reverse_cons, List.append_assoc, List.singleton_append, h]
  simp

theorem trimStart_ne_nil {s : List Char} (hs : ¬ AllBlank s) : trimStart s ≠ [] := by
  intro h
  obtain ⟨b, hb, hsb⟩ := trimStart_split s
  rw [h, List.append_nil] at hsb
  exact hs (hsb ▸ hb)

theorem trimEnd_ne_nil {s : List Char} (hs : ¬ AllBlank s) : trimEnd s ≠ [] := by
  intro h
  obtain ⟨b, hb, hsb⟩ := trimEnd_split s
  rw [h, List.nil_append] at hsb
  exact hs (hsb ▸ hb)

theorem trimStart_append_of_not_allBlank {a : List Char} (ha : ¬ AllBlank a) (s : List Char) :
    trimStart (a ++ s) = trimStart a ++ s := by
  have hne := trimStart_ne_nil ha
  unfold trimStart at hne ⊢
  rw [List.dropWhile_append, if_neg (by rwa [List.isEmpty_iff])]

theorem trimEnd_append_of_not_allBlank {s : List Char} (hs : ¬ AllBlank s) (a : List Char) :
    trimEnd (a ++ s) = a ++ trimEnd s := by
  have hr : ¬ AllBlank s.reverse := fun h => hs fun c hc => h c (List.mem_reverse.mpr hc)
  have h := trimStart_append_of_not_allBlank hr a.reverse
  unfold trimStart at h
  unfold trimEnd
  rw [List.reverse_append, h, List.reverse_append, List.reverse_reverse]

/-! ## Both ends -/

theorem trimmed_trim (s : List Char) : Trimmed (trim s) where
  head c hc := by
    rw [trim, head?_trimEnd fun d hd => head_trimStart hd] at hc
    exact head_trimStart hc
  last _ hc := getLast_trimEnd hc

/-- **A text is its trimmed part with blanks before and behind it.** -/
theorem trim_split (s : List Char) :
    ∃ a b : List Char, AllBlank a ∧ AllBlank b ∧ s = a ++ trim s ++ b := by
  obtain ⟨a, ha, hs⟩ := trimStart_split s
  obtain ⟨b, hb, ht⟩ := trimEnd_split (trimStart s)
  exact ⟨a, b, ha, hb, by rw [trim, List.append_assoc, ← ht, ← hs]⟩

theorem Trimmed.trim_eq {s : List Char} (h : Trimmed s) : trim s = s := by
  rw [trim, trimStart_of_head h.head, trimEnd_of_last h.last]

theorem trim_trim (s : List Char) : trim (trim s) = trim s :=
  (trimmed_trim s).trim_eq

instance (s : List Char) : Decidable (Trimmed s) :=
  decidable_of_iff (trim s = s) ⟨fun h => h ▸ trimmed_trim s, Trimmed.trim_eq⟩

theorem trim_blank_append {b : List Char} (hb : AllBlank b) (s : List Char) :
    trim (b ++ s) = trim s := by
  rw [trim, trim, trimStart_blank_append hb]

theorem trim_append_blank {b : List Char} (hb : AllBlank b) (s : List Char) :
    trim (s ++ b) = trim s := by
  unfold trim
  unfold trimStart
  rw [List.dropWhile_append]
  split
  · rename_i h
    rw [List.isEmpty_iff] at h
    have hd : b.dropWhile isBlank = [] := by
      rw [← List.append_nil b, List.dropWhile_append_of_pos hb, List.dropWhile_nil]
    rw [h, hd]
  · exact trimEnd_append_blank hb _

/-- **Trimming gives the only trimmed text that blanks at the ends make the given one.** -/
theorem trim_eq_iff {s t : List Char} :
    trim s = t ↔ Trimmed t ∧ ∃ a b, AllBlank a ∧ AllBlank b ∧ s = a ++ t ++ b := by
  constructor
  · rintro rfl
    exact ⟨trimmed_trim s, trim_split s⟩
  · rintro ⟨ht, a, b, ha, hb, rfl⟩
    rw [trim_append_blank hb, trim_blank_append ha, ht.trim_eq]

theorem trim_eq_nil_iff {s : List Char} : trim s = [] ↔ AllBlank s := by
  constructor
  · intro h
    obtain ⟨a, b, ha, hb, hs⟩ := trim_split s
    rw [h, List.append_nil] at hs
    exact hs ▸ ha.append hb
  · intro h
    rw [← List.append_nil s, trim_blank_append h, trim_nil]

/-- Around a character that is not blank, each side is trimmed by itself. -/
theorem trim_append_cons {c : Char} (hc : isBlank c = false) (a s : List Char) :
    trim (a ++ c :: s) = trimStart a ++ c :: trimEnd s := by
  rw [trim, trimStart_append_cons hc, trimEnd_append_cons hc]

theorem trim_trimStart (s : List Char) : trim (trimStart s) = trim s := by
  rw [trim, trim, trimStart_of_head fun c hc => head_trimStart hc]

theorem mem_of_mem_trimStart {c : Char} {s : List Char} (h : c ∈ trimStart s) : c ∈ s := by
  obtain ⟨b, _, hs⟩ := trimStart_split s
  rw [hs]
  exact List.mem_append_right b h

theorem mem_of_mem_trim {c : Char} {s : List Char} (h : c ∈ trim s) : c ∈ s := by
  obtain ⟨a, b, _, _, hs⟩ := trim_split s
  rw [hs]
  exact List.mem_append_left b (List.mem_append_right a h)

/-! ## Void lines -/

theorem isVoid_congr {s t : List Char} (h : trim s = trim t) : isVoid s = isVoid t := by
  rw [Bool.eq_iff_iff, isVoid_iff, isVoid_iff, h]

theorem isVoid_trim (s : List Char) : isVoid (trim s) = isVoid s :=
  isVoid_congr (trim_trim s)

theorem isVoid_blank_append {b : List Char} (hb : AllBlank b) (s : List Char) :
    isVoid (b ++ s) = isVoid s :=
  isVoid_congr (trim_blank_append hb s)

theorem isVoid_append_blank {b : List Char} (hb : AllBlank b) (s : List Char) :
    isVoid (s ++ b) = isVoid s :=
  isVoid_congr (trim_append_blank hb s)

/-- What stands behind a character that is not blank does not make a line void or not. -/
theorem isVoid_append_cons {c : Char} (hc : isBlank c = false) (a s t : List Char) :
    isVoid (a ++ c :: s) = isVoid (a ++ c :: t) := by
  unfold isVoid
  rw [trimStart_append_cons hc, trimStart_append_cons hc]
  cases trimStart a with
  | nil => rfl
  | cons d u => rfl

end DartModels.Text
