/-!
# White space and trimming

`isBlank` is the Unicode property White_Space: the separators (no-break and ideographic space
among them), the line breaks, and the five controls from the tab to the carriage return. The
zero-width space and the four information separators are not blank.

Results:
* a text splits into blanks, its trimmed part and blanks (`trimStart_split`, `trimEnd_split`);
* nothing blank is left at an end (`head_trimStart`, `getLast_trimEnd`).
-/

namespace DartModels.Text

/-- The Unicode property White_Space (`char::is_whitespace`). -/
def isBlank (c : Char) : Bool :=
  let n := c.toNat
  (9 ≤ n && n ≤ 13) || n == 0x20 || n == 0x85 || n == 0xA0 || n == 0x1680 ||
    (0x2000 ≤ n && n ≤ 0x200A) || n == 0x2028 || n == 0x2029 || n == 0x202F || n == 0x205F ||
    n == 0x3000

/-- Drops the blanks in front. -/
def trimStart (s : List Char) : List Char :=
  s.dropWhile isBlank

/-- Drops the blanks at the end. -/
def trimEnd (s : List Char) : List Char :=
  (s.reverse.dropWhile isBlank).reverse

/-- Drops the blanks at both ends (`str::trim`). -/
def trim (s : List Char) : List Char :=
  trimEnd (trimStart s)

@[simp] theorem trimStart_nil : trimStart [] = [] := rfl

@[simp] theorem trimEnd_nil : trimEnd [] = [] := rfl

@[simp] theorem trim_nil : trim [] = [] := rfl

theorem trimStart_cons_of_not_blank {c : Char} (h : isBlank c = false) (s : List Char) :
    trimStart (c :: s) = c :: s := by
  simp [trimStart, h]

/-- What `trimStart` drops is blank. -/
theorem trimStart_split (s : List Char) :
    ∃ b : List Char, (∀ c ∈ b, isBlank c = true) ∧ s = b ++ trimStart s :=
  ⟨s.takeWhile isBlank, fun _ hc => List.all_eq_true.mp List.all_takeWhile _ hc,
    List.takeWhile_append_dropWhile.symm⟩

/-- What `trimEnd` drops is blank. -/
theorem trimEnd_split (s : List Char) :
    ∃ b : List Char, (∀ c ∈ b, isBlank c = true) ∧ s = trimEnd s ++ b := by
  obtain ⟨b, hb, h⟩ := trimStart_split s.reverse
  refine ⟨b.reverse, fun c hc => hb c (List.mem_reverse.mp hc), ?_⟩
  rw [trimEnd, ← List.reverse_append]
  exact List.reverse_eq_iff.mp h

theorem head_trimStart {s : List Char} {c : Char} (h : (trimStart s).head? = some c) :
    isBlank c = false := by
  have := List.head?_dropWhile_not isBlank s
  rw [trimStart] at h
  simpa only [h] using this

theorem getLast_trimEnd {s : List Char} {c : Char} (h : (trimEnd s).getLast? = some c) :
    isBlank c = false := by
  rw [trimEnd, List.getLast?_reverse] at h
  exact head_trimStart (s := s.reverse) h

end DartModels.Text
