import DartModels.Text.Uppercase.Table

/-!
# Upper case of one character

`upper` is Unicode's full upper case mapping, without regard to language: one character may have
an image of several (`ß` has `SS`). It is not title case: the digraph `ǆ` has `Ǆ`, not `ǅ`.

Results: an image is never empty (`upper_ne_nil`), and a character of ASCII that is no capital, such
as the underscore, is in no image but its own (`not_mem_upper`).
-/

namespace DartModels.Text

/-- The upper case of a character (`char::to_uppercase`). -/
def upper (c : Char) : List Char :=
  if c.toNat < 0x80 then [c.toUpper]
  else
    match Uppercase.expansions.lookup c.toNat with
    | some image => image.map Char.ofNat
    | none =>
      match Uppercase.runs.findSome? (·.image? c.toNat) with
      | some n => [Char.ofNat n]
      | none => [c]

theorem upper_of_ascii {c : Char} (h : c.toNat < 0x80) : upper c = [c.toUpper] := by
  simp [upper, h]

namespace Uppercase

theorem mem_of_lookup_eq_some {α β : Type} [BEq α] [LawfulBEq α] {l : List (α × β)} {a : α} {b : β}
    (h : l.lookup a = some b) : (a, b) ∈ l := by
  obtain ⟨before, behind, rfl, -⟩ := List.lookup_eq_some_iff.mp h
  exact List.mem_append_right before List.mem_cons_self

/-- A code point beyond ASCII, or that of a capital. -/
def isImage (n : Nat) : Bool :=
  0x80 ≤ n || (0x41 ≤ n && n ≤ 0x5A)

theorem expansions_ne_nil : ∀ e ∈ expansions, e.2 ≠ [] := by decide +kernel

theorem isImage_of_mem_expansions : ∀ e ∈ expansions, ∀ n ∈ e.2, isImage n = true := by
  decide +kernel

/-- A run whose images are in ASCII consists of one letter. -/
theorem isImage_of_mem_runs :
    ∀ r ∈ runs, 0x80 ≤ r.image ∨ r.first = r.last ∧ isImage r.image = true := by
  decide +kernel

theorem isImage_of_image? {r : Run} (hr : r ∈ runs) {n m : Nat} (h : r.image? n = some m) :
    isImage m = true := by
  unfold Run.image? at h
  split at h
  · rename_i hn
    obtain rfl := Option.some.inj h
    rcases isImage_of_mem_runs r hr with habove | ⟨hone, himage⟩
    · simp only [isImage, Bool.or_eq_true, decide_eq_true_eq]
      omega
    · have hfirst : n - r.first = 0 := by omega
      rwa [hfirst, Nat.add_zero]
  · cases h

/-- No image is a character of ASCII that is no capital. -/
theorem ofNat_ne_of_isImage {n : Nat} (h : isImage n = true) {d : Char}
    (hd : isImage d.toNat = false) (hnull : d ≠ '\x00') : Char.ofNat n ≠ d := by
  rintro rfl
  unfold Char.ofNat at hd hnull
  by_cases hn : n.isValidChar
  · rw [dif_pos hn] at hd
    exact absurd (h.symm.trans hd) (by simp)
  · rw [dif_neg hn] at hnull
    exact hnull rfl

end Uppercase

open Uppercase

/-- Upper case makes nothing but capitals of letters. -/
theorem toUpper_ne {c d : Char} (h : c ≠ d) (hd : isImage d.toNat = false) : c.toUpper ≠ d := by
  unfold Char.toUpper
  split
  · rename_i hc
    rintro rfl
    have h1 := UInt32.le_iff_toNat_le.mp hc.1
    have h2 := UInt32.le_iff_toNat_le.mp hc.2
    simp [isImage] at h1 h2 hd
    omega
  · exact h

theorem upper_ne_nil (c : Char) : upper c ≠ [] := by
  unfold upper
  split
  · simp
  · split
    · rename_i image h
      simpa using expansions_ne_nil _ (mem_of_lookup_eq_some h)
    · split <;> simp

/-- **A character of ASCII that is no capital** is in no upper case but its own. -/
theorem not_mem_upper {c d : Char} (h : c ≠ d) (hd : isImage d.toNat = false) (hnull : d ≠ '\x00') :
    d ∉ upper c := by
  unfold upper
  split
  · simpa using (toUpper_ne h hd).symm
  · split
    · rename_i image hl
      rw [List.mem_map]
      rintro ⟨n, hn, e⟩
      have himage := isImage_of_mem_expansions _ (mem_of_lookup_eq_some hl) n hn
      exact ofNat_ne_of_isImage himage hd hnull e
    · split
      · rename_i n hn
        obtain ⟨r, hr, hi⟩ := List.exists_of_findSome?_eq_some hn
        simpa using (ofNat_ne_of_isImage (isImage_of_image? hr hi) hd hnull).symm
      · simpa using h.symm

end DartModels.Text
