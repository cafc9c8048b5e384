import DartModels.Name
import DartModels.Proofs.Text.Trimming

/-!
# The characters of names

A word and an identifier have at least one character, and none but their own. Their letters are
those of ASCII, and so are the letters that upper case makes of them.

Results:
* `not_mem_of_isWord`, `not_mem_of_isIdentifier`: any other character stands in neither;
* `trimmed_of_isWord`: no blank stands in a word;
* `startsIdentifier_toUpper`, `continuesIdentifier_toUpper`: upper case makes no difference to
  whether a character may stand in an identifier.
-/

namespace DartModels.Name

open Text

theorem continuesWord_of_isWord {w : List Char} (h : isWord w = true) :
    ∀ c ∈ w, continuesWord c = true := by
  cases w with
  | nil => cases h
  | cons d w =>
    rw [isWord, Bool.and_eq_true, List.all_eq_true] at h
    intro c hc
    rcases List.mem_cons.mp hc with rfl | hc
    · have hd := h.1
      rw [startsWord, Bool.or_eq_true] at hd
      rw [continuesWord, Bool.or_eq_true, Char.isAlphanum, Bool.or_eq_true]
      exact hd.imp_left Or.inl
    · exact h.2 c hc

theorem toNat_of_continuesWord {c : Char} (h : continuesWord c = true) :
    0x20 < c.toNat ∧ c.toNat < 0x80 := by
  delta continuesWord Char.isAlphanum Char.isAlpha Char.isUpper Char.isLower Char.isDigit at h
  simp only [Bool.or_eq_true, Bool.and_eq_true, decide_eq_true_eq, beq_iff_eq, ge_iff_le,
    UInt32.le_iff_toNat_le] at h
  rcases h with ((⟨h₁, h₂⟩ | ⟨h₁, h₂⟩) | ⟨h₁, h₂⟩) | rfl
  · simp at h₁ h₂
    omega
  · simp at h₁ h₂
    omega
  · simp at h₁ h₂
    omega
  · decide

theorem not_isBlank_of_continuesWord {c : Char} (h : continuesWord c = true) :
    isBlank c = false := by
  have hn := toNat_of_continuesWord h
  simp [isBlank]
  omega

theorem not_continuesWord_of_isBlank {c : Char} (h : isBlank c = true) :
    continuesWord c = false := by
  cases hc : continuesWord c with
  | false => rfl
  | true =>
    rw [not_isBlank_of_continuesWord hc] at h
    cases h

theorem not_mem_of_isWord {w : List Char} (h : isWord w = true) {c : Char}
    (hc : continuesWord c = false) : c ∉ w := by
  intro hm
  rw [continuesWord_of_isWord h c hm] at hc
  cases hc

theorem ne_nil_of_isWord {w : List Char} (h : isWord w = true) : w ≠ [] := by
  rintro rfl
  cases h

/-- A word has no blanks to be trimmed. -/
theorem trimmed_of_isWord {w : List Char} (h : isWord w = true) : Trimmed w where
  head c hc := not_isBlank_of_continuesWord (continuesWord_of_isWord h c (List.mem_of_head? hc))
  last c hc := not_isBlank_of_continuesWord (continuesWord_of_isWord h c (List.mem_of_getLast? hc))

/-! ## Letters and digits -/

/-- What can be checked of so many characters in a row, from the first on. -/
theorem forall_between {p : Char → Prop} {first count : Nat}
    (h : ∀ n < count, p (Char.ofNat (first + n))) {c : Char} (hfirst : first ≤ c.toNat)
    (hlast : c.toNat < first + count) : p c := by
  have hn := h (c.toNat - first) (by omega)
  rwa [Nat.add_sub_cancel' hfirst, Char.ofNat_toNat] at hn

theorem isLower_iff {c : Char} : c.isLower = true ↔ 97 ≤ c.toNat ∧ c.toNat ≤ 122 := by
  delta Char.isLower
  rw [Bool.and_eq_true, decide_eq_true_eq, decide_eq_true_eq]
  exact Iff.rfl

theorem forall_isLower {p : Char → Prop} (h : ∀ n < 26, p (Char.ofNat (97 + n))) {c : Char}
    (hc : c.isLower = true) : p c := by
  obtain ⟨hfirst, hlast⟩ := isLower_iff.mp hc
  exact forall_between h hfirst (Nat.lt_succ_of_le hlast)

theorem forall_isDigit {p : Char → Prop} (h : ∀ n < 10, p (Char.ofNat (48 + n))) {c : Char}
    (hc : c.isDigit = true) : p c := by
  obtain ⟨hfirst, hlast⟩ := Char.isDigit_iff_toNat.mp hc
  exact forall_between h hfirst (Nat.lt_succ_of_le hlast)

theorem not_isUpper_of_isLower {c : Char} (h : c.isLower = true) : c.isUpper = false :=
  forall_isLower (p := fun c => c.isUpper = false) (by decide) h

theorem not_isUpper_of_isDigit {c : Char} (h : c.isDigit = true) : c.isUpper = false :=
  forall_isDigit (p := fun c => c.isUpper = false) (by decide) h

theorem isUpper_toUpper {c : Char} (h : c.isLower = true) : c.toUpper.isUpper = true :=
  forall_isLower (p := fun c => c.toUpper.isUpper = true) (by decide) h

theorem toLower_toUpper {c : Char} (h : c.isLower = true) : c.toUpper.toLower = c :=
  forall_isLower (p := fun c => c.toUpper.toLower = c) (by decide) h

/-- Only lower case letters have another upper case. -/
theorem toUpper_of_not_isLower {c : Char} (h : ¬ c.isLower = true) : c.toUpper = c :=
  dif_neg fun hc => h (isLower_iff.mpr hc)

/-! ## Identifiers -/

/-- The characters that may start an identifier. -/
def startsIdentifier (c : Char) : Bool :=
  startsWord c || c == '$'

/-- The characters that may continue an identifier. -/
def continuesIdentifier (c : Char) : Bool :=
  continuesWord c || c == '$'

theorem isIdentifier_cons (c : Char) (s : List Char) :
    isIdentifier (c :: s) = (startsIdentifier c && s.all continuesIdentifier) := rfl

theorem continuesIdentifier_of_startsIdentifier {c : Char} (h : startsIdentifier c = true) :
    continuesIdentifier c = true := by
  simp only [startsIdentifier, startsWord, Bool.or_eq_true] at h
  simp only [continuesIdentifier, continuesWord, Char.isAlphanum, Bool.or_eq_true]
  exact h.imp_left (Or.imp_left Or.inl)

theorem continuesIdentifier_of_isIdentifier {s : List Char} (h : isIdentifier s = true) :
    ∀ c ∈ s, continuesIdentifier c = true := by
  cases s with
  | nil => cases h
  | cons d s =>
    rw [isIdentifier_cons, Bool.and_eq_true, List.all_eq_true] at h
    exact List.forall_mem_cons.mpr ⟨continuesIdentifier_of_startsIdentifier h.1, h.2⟩

theorem not_mem_of_isIdentifier {s : List Char} (h : isIdentifier s = true) {c : Char}
    (hc : continuesWord c = false) (hd : c ≠ '$') : c ∉ s := by
  intro hm
  have hcontinues := continuesIdentifier_of_isIdentifier h c hm
  simp [continuesIdentifier, hc, hd] at hcontinues

theorem ne_nil_of_isIdentifier {s : List Char} (h : isIdentifier s = true) : s ≠ [] := by
  rintro rfl
  cases h

theorem not_startsIdentifier_of_isDigit {c : Char} (h : c.isDigit = true) :
    startsIdentifier c = false :=
  forall_isDigit (p := fun c => startsIdentifier c = false) (by decide) h

theorem startsIdentifier_toUpper (c : Char) : startsIdentifier c.toUpper = startsIdentifier c := by
  by_cases hl : c.isLower = true
  · exact forall_isLower (p := fun c => startsIdentifier c.toUpper = startsIdentifier c)
      (by decide) hl
  · rw [toUpper_of_not_isLower hl]

theorem continuesIdentifier_toUpper (c : Char) :
    continuesIdentifier c.toUpper = continuesIdentifier c := by
  by_cases hl : c.isLower = true
  · exact forall_isLower (p := fun c => continuesIdentifier c.toUpper = continuesIdentifier c)
      (by decide) hl
  · rw [toUpper_of_not_isLower hl]

end DartModels.Name
