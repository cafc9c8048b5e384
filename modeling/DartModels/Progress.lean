/-!
# Readings that may stop half way

A reader that goes through a list of things finishes some of them and then reaches the end or an
error. `Progress` keeps both; `Progress.toExcept` forgets what was finished before an error. The
readers of declarations (`segment_declarations`) and of fields (the loop of `compile_model`) are
such, and the log tells what they have finished.
-/

namespace DartModels

/-- What was finished, in order, and the error that stopped the reader, if one did. -/
structure Progress (ε α : Type) where
  finished : List α
  error : Option ε
deriving DecidableEq, Repr

namespace Progress

variable {ε α β : Type}

/-- Nothing left to read. -/
def done : Progress ε α :=
  ⟨[], none⟩

/-- An error before anything is finished. -/
def stop (e : ε) : Progress ε α :=
  ⟨[], some e⟩

/-- One thing finished before the others. -/
def cons (a : α) (p : Progress ε α) : Progress ε α :=
  ⟨a :: p.finished, p.error⟩

/-- Everything, or the error. -/
def toExcept (p : Progress ε α) : Except ε (List α) :=
  match p.error with
  | none => .ok p.finished
  | some e => .error e

/-- Goes through a list with a reader that may find nothing in an item, up to the first error. -/
def ofList (f : α → Except ε (Option β)) : List α → Progress ε β
  | [] => done
  | a :: as =>
    match f a with
    | .error e => stop e
    | .ok none => ofList f as
    | .ok (some b) => cons b (ofList f as)

@[simp] theorem toExcept_done : (done : Progress ε α).toExcept = .ok [] := rfl

@[simp] theorem toExcept_stop (e : ε) : (stop e : Progress ε α).toExcept = .error e := rfl

@[simp] theorem toExcept_cons (a : α) (p : Progress ε α) :
    (cons a p).toExcept = (a :: ·) <$> p.toExcept := by
  obtain ⟨as, e⟩ := p
  cases e <;> rfl

theorem toExcept_eq_ok_iff {p : Progress ε α} {as : List α} :
    p.toExcept = .ok as ↔ p.error = none ∧ p.finished = as := by
  obtain ⟨bs, e⟩ := p
  cases e <;> simp [toExcept]

theorem toExcept_eq_error_iff {p : Progress ε α} {e : ε} :
    p.toExcept = .error e ↔ p.error = some e := by
  obtain ⟨bs, e⟩ := p
  cases e <;> simp [toExcept]

/-- A list is gone through piece by piece, the second piece only after all of the first. -/
theorem ofList_append (f : α → Except ε (Option β)) (as bs : List α) :
    ofList f (as ++ bs) =
      match ofList f as with
      | ⟨xs, none⟩ => ⟨xs ++ (ofList f bs).finished, (ofList f bs).error⟩
      | stopped => stopped := by
  induction as with
  | nil => rfl
  | cons a as ih =>
    rw [List.cons_append, ofList, ofList]
    split
    · rfl
    · exact ih
    · rw [ih]
      rcases ofList f as with ⟨xs, _ | e⟩ <;> rfl

end Progress

end DartModels
