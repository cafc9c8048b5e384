/-!
# Lines

A line feed ends a line, and a carriage return directly before it belongs to the ending. A last
line without an ending counts if it holds a character, and then keeps a carriage return at its
end. Nothing else breaks a line.

Results:
* no line holds a line feed (`not_mem_of_mem_lines`);
* `lines` reads back what `unlines` writes, for lines that hold no line feed and do not end in a
  carriage return (`lines_unlines`).
-/

namespace DartModels.Text

/-- The lines of a text, without their endings (`str::lines`). -/
def lines : List Char → List (List Char)
  | [] => []
  | '\n' :: s => [] :: lines s
  | '\r' :: '\n' :: s => [] :: lines s
  | c :: s =>
    match lines s with
    | [] => [[c]]
    | l :: ls => (c :: l) :: ls

/-- Every line, followed by a line feed. -/
def unlines (ls : List (List Char)) : List Char :=
  ls.flatMap (· ++ ['\n'])

/-- The lines with their numbers, counted from one. -/
def numberedLines (s : List Char) : List (Nat × List Char) :=
  (lines s).zipIdx 1 |>.map Prod.swap

theorem lines_cons {c : Char} {s : List Char} (hn : c ≠ '\n')
    (hr : c ≠ '\r' ∨ s.head? ≠ some '\n') :
    lines (c :: s) = match lines s with
      | [] => [[c]]
      | l :: ls => (c :: l) :: ls := by
  rw [lines.eq_def]
  split
  · simp_all
  · simp_all
  · simp_all
  · simp_all

theorem not_mem_of_mem_lines {s l : List Char} (h : l ∈ lines s) : '\n' ∉ l := by
  fun_induction lines s generalizing l with
  | case1 => simp at h
  | case2 s ih => rcases List.mem_cons.mp h with rfl | h <;> simp_all
  | case3 s ih => rcases List.mem_cons.mp h with rfl | h <;> simp_all
  | case4 c s hn hr he ih => simp_all; rintro rfl; simp_all
  | case5 c s hn hr l' ls he ih =>
    rw [he] at ih
    rcases List.mem_cons.mp h with rfl | h
    · rw [List.mem_cons, not_or]
      exact ⟨fun e => hn e.symm, ih List.mem_cons_self⟩
    · exact ih (List.mem_cons_of_mem _ h)

theorem lines_line {l : List Char} (hn : '\n' ∉ l) (hr : l.getLast? ≠ some '\r') (s : List Char) :
    lines (l ++ '\n' :: s) = l :: lines s := by
  induction l with
  | nil => rfl
  | cons c l ih =>
    rw [List.mem_cons, not_or] at hn
    have hl : l.getLast? ≠ some '\r' := by
      cases l with
      | nil => simp
      | cons d l => simpa [List.getLast?_cons_cons] using hr
    rw [List.cons_append, lines_cons (Ne.symm hn.1), ih hn.2 hl]
    cases l with
    | nil => exact Or.inl (by simpa using hr)
    | cons d l => exact Or.inr (by simp at hn; simpa using fun e => hn.2.1 e.symm)

theorem lines_unlines {ls : List (List Char)} (hn : ∀ l ∈ ls, '\n' ∉ l)
    (hr : ∀ l ∈ ls, l.getLast? ≠ some '\r') : lines (unlines ls) = ls := by
  induction ls with
  | nil => rfl
  | cons l ls ih =>
    rw [unlines, List.flatMap_cons, List.append_assoc, List.singleton_append]
    rw [lines_line (hn l List.mem_cons_self) (hr l List.mem_cons_self)]
    rw [← unlines, ih (fun m hm => hn m (List.mem_cons_of_mem _ hm))
      (fun m hm => hr m (List.mem_cons_of_mem _ hm))]

end DartModels.Text
