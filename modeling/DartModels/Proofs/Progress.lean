import DartModels.Progress
import Mathlib.Data.List.Forall2

/-!
# Readings put together

A reading that is not stopped goes on with what is read next (`prepend`). What it reads, and the
error that stops it, may be changed together (`map`).

Results:
* `toExcept_cons_eq_ok_iff`, `toExcept_prepend`: what was finished before counts if nothing stops
  the rest;
* `toExcept_map`: what was finished is changed, or the error;
* `ofList_eq_ok_iff`: a reader that always finds something finds one thing for each item;
* `exists_of_ofList_eq_error`, `ofList_append_eq_error`: an error is that of an item, and nothing
  behind it counts;
* `toExcept_ofList_of_forall₂`: a reader that stops at the first item with a property.
-/

namespace DartModels.Progress

variable {ε δ α β : Type}

/-- Things finished before the others. -/
def prepend (as : List α) (p : Progress ε α) : Progress ε α :=
  ⟨as ++ p.finished, p.error⟩

/-- A reading with what is finished changed, and the error. -/
def map (f : α → β) (g : ε → δ) (p : Progress ε α) : Progress δ β :=
  ⟨p.finished.map f, p.error.map g⟩

theorem toExcept_map (f : α → β) (g : ε → δ) (p : Progress ε α) :
    (p.map f g).toExcept = (p.toExcept.map (List.map f)).mapError g := by
  obtain ⟨as, e⟩ := p
  cases e <;> rfl

theorem toExcept_prepend (as : List α) (p : Progress ε α) :
    (prepend as p).toExcept = p.toExcept.map (as ++ ·) := by
  obtain ⟨bs, e⟩ := p
  cases e <;> rfl

theorem toExcept_cons_eq_ok_iff {a : α} {p : Progress ε α} {bs : List α} :
    (cons a p).toExcept = .ok bs ↔ ∃ as, p.toExcept = .ok as ∧ bs = a :: as := by
  obtain ⟨as, e⟩ := p
  cases e with
  | none =>
    constructor
    · intro h
      exact ⟨as, rfl, (Except.ok.inj h).symm⟩
    · rintro ⟨as', h, rfl⟩
      rw [← Except.ok.inj h]
      rfl
  | some e =>
    constructor
    · intro h
      simp [toExcept, cons] at h
    · rintro ⟨as', h, rfl⟩
      simp [toExcept] at h

theorem eq_of_toExcept_eq_ok {p : Progress ε α} {as : List α} (h : p.toExcept = .ok as) :
    p = ⟨as, none⟩ := by
  obtain ⟨he, rfl⟩ := toExcept_eq_ok_iff.mp h
  rw [← he]

/-- **A reader that finds nothing in no item finds one thing in each.** -/
theorem ofList_eq_ok_iff {f : α → Except ε (Option β)} {as : List α} {bs : List β}
    (hf : ∀ a ∈ as, f a ≠ .ok none) :
    (ofList f as).toExcept = .ok bs ↔ List.Forall₂ (fun a b => f a = .ok (some b)) as bs := by
  induction as generalizing bs with
  | nil =>
    rw [ofList, toExcept_done, Except.ok.injEq, List.forall₂_nil_left_iff, eq_comm]
  | cons a as ih =>
    have ha := hf a List.mem_cons_self
    have ih' := fun {bs : List β} =>
      @ih bs fun b hb => hf b (List.mem_cons_of_mem a hb)
    rw [ofList]
    cases hfa : f a with
    | error e =>
      refine iff_of_false (by simp) ?_
      rw [List.forall₂_cons_left_iff]
      rintro ⟨b, cs, hb, -, -⟩
      rw [hfa] at hb
      cases hb
    | ok o =>
      cases o with
      | none => exact absurd hfa ha
      | some b =>
        simp only [toExcept_cons_eq_ok_iff, ih', List.forall₂_cons_left_iff, hfa]
        constructor
        · rintro ⟨cs, hcs, rfl⟩
          exact ⟨b, cs, rfl, hcs, rfl⟩
        · rintro ⟨c, cs, hc, hcs, rfl⟩
          obtain rfl := Option.some.inj (Except.ok.inj hc)
          exact ⟨cs, hcs, rfl⟩

/-- **The error that stops a reader is that of an item.** -/
theorem exists_of_ofList_eq_error {f : α → Except ε (Option β)} {as : List α} {e : ε}
    (h : (ofList f as).toExcept = .error e) : ∃ a ∈ as, f a = .error e := by
  induction as with
  | nil => cases h
  | cons a as ih =>
    rw [ofList] at h
    cases ha : f a with
    | error e' =>
      rw [ha, toExcept_stop, Except.error.injEq] at h
      exact ⟨a, List.mem_cons_self, h ▸ ha⟩
    | ok o =>
      have hrest : (ofList f as).toExcept = .error e := by
        rw [ha] at h
        cases o with
        | none => exact h
        | some b =>
          have hcons : (cons b (ofList f as)).error = some e := toExcept_eq_error_iff.mp h
          exact toExcept_eq_error_iff.mpr hcons
      obtain ⟨b, hb, he⟩ := ih hrest
      exact ⟨b, List.mem_cons_of_mem a hb, he⟩

/-- **Nothing counts behind the item that stops a reader.** -/
theorem ofList_append_eq_error {f : α → Except ε (Option β)} {as : List α} {e : ε}
    (h : (ofList f as).toExcept = .error e) (bs : List α) :
    (ofList f (as ++ bs)).toExcept = .error e := by
  rw [toExcept_eq_error_iff] at h ⊢
  rw [ofList_append]
  generalize ofList f as = p at h
  obtain ⟨xs, e'⟩ := p
  obtain rfl : e' = some e := h
  rfl

/-- **A reader that stops at each item with a property** stops at the first of them, or finds one
thing in each item. -/
theorem toExcept_ofList_of_forall₂ {γ : Type} {f : α → Except ε (Option γ)} {as : List α}
    {bs : List β} {p : β → Bool} {stop : β → ε} {read : β → γ}
    (h : List.Forall₂ (fun a b => f a = if p b then .error (stop b) else .ok (some (read b)))
      as bs) :
    (ofList f as).toExcept =
      match bs.find? p with
      | some b => .error (stop b)
      | none => .ok (bs.map read) := by
  induction h with
  | nil => rfl
  | @cons a b as bs ha _ ih =>
    rw [ofList, ha, List.find?_cons]
    cases hp : p b with
    | true => rfl
    | false =>
      simp only [Bool.false_eq_true, if_false, toExcept_cons, ih]
      cases bs.find? p <;> rfl

end DartModels.Progress
