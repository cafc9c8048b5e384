import DartModels.Text.Cut
import DartModels.Text.Lines

/-!
# Lines of joined texts

What a line feed between two texts does to their lines: those of the second follow, and the first
has one line more than it has line feeds. Only its last line may change, which loses a carriage
return at its end, or is new and empty.

Results:
* `intercalate_cons_eq_flatMap`: where a separator between texts stands;
* `lines_unlines_append`: lines in front of a text are its first lines;
* `lines_append_newline`: the lines of the second text follow those of the first;
* `length_lines_newline`: the number of lines before a line feed;
* `exists_last_line`: how the lines of a text change if a line feed is put behind it;
* `lines_intercalate`: lines that are joined by line feeds are read back;
* `lines_firstLines_append`: what stands behind the first lines of a text.
-/

namespace DartModels.Text

/-- A separator between texts stands in front of every text but the first. -/
theorem intercalate_cons_eq_flatMap (c : Char) (s : List Char) (ss : List (List Char)) :
    [c].intercalate (s :: ss) = s ++ ss.flatMap (c :: ·) := by
  induction ss generalizing s with
  | nil => simp
  | cons t ts ih =>
    rw [List.intercalate_cons_cons, ih, List.flatMap_cons]
    simp

/-- A line without the carriage return at its end, if it has one. -/
def chomp (l : List Char) : List Char :=
  if l.getLast? = some '\r' then l.dropLast else l

theorem chomp_concat (l : List Char) : chomp (l ++ ['\r']) = l := by
  simp [chomp]

theorem chomp_of_getLast?_ne {l : List Char} (h : l.getLast? ≠ some '\r') : chomp l = l :=
  if_neg h

/-- A chomped line lacks a carriage return or nothing. -/
theorem chomp_eq_or (l : List Char) : l = chomp l ∨ l = chomp l ++ ['\r'] := by
  by_cases h : l.getLast? = some '\r'
  · obtain ⟨m, rfl⟩ := List.getLast?_eq_some_iff.mp h
    exact Or.inr (by rw [chomp_concat])
  · exact Or.inl (chomp_of_getLast?_ne h).symm

theorem lines_carriageReturn {l : List Char} (hn : '\n' ∉ l) (s : List Char) :
    lines (l ++ '\r' :: '\n' :: s) = l :: lines s := by
  induction l with
  | nil => rfl
  | cons c l ih =>
    rw [List.mem_cons, not_or] at hn
    rw [List.cons_append, lines_cons (Ne.symm hn.1), ih hn.2]
    cases l with
    | nil => exact Or.inr (by simp)
    | cons d l =>
      exact Or.inr fun h => hn.2 (List.mem_cons.mpr (Or.inl (Option.some.inj h).symm))

/-- The first line of a text. -/
theorem lines_append_chomp {l : List Char} (hn : '\n' ∉ l) (s : List Char) :
    lines (l ++ '\n' :: s) = chomp l :: lines s := by
  by_cases h : l.getLast? = some '\r'
  · obtain ⟨m, rfl⟩ := List.getLast?_eq_some_iff.mp h
    rw [chomp_concat, List.append_assoc, List.singleton_append]
    exact lines_carriageReturn (fun hm => hn (List.mem_append_left _ hm)) s
  · rw [chomp_of_getLast?_ne h]
    exact lines_line hn h s

/-- Lines with their line feeds in front of a text are its first lines. -/
theorem lines_unlines_append {ls : List (List Char)} (hn : ∀ l ∈ ls, '\n' ∉ l) (s : List Char) :
    lines (unlines ls ++ s) = ls.map chomp ++ lines s := by
  induction ls with
  | nil => rfl
  | cons l ls ih =>
    rw [unlines, List.flatMap_cons, List.append_assoc, List.append_assoc, List.singleton_append,
      lines_append_chomp (hn l List.mem_cons_self), ← unlines,
      ih fun m hm => hn m (List.mem_cons_of_mem l hm)]
    rfl

/-- A text without a line feed is one line, or none. -/
theorem lines_of_not_mem {l : List Char} (hn : '\n' ∉ l) :
    lines l = if l = [] then [] else [l] := by
  induction l with
  | nil => rfl
  | cons c l ih =>
    rw [List.mem_cons, not_or] at hn
    have hl : l.head? ≠ some '\n' := fun h => hn.2 (List.mem_of_head? h)
    rw [lines_cons (Ne.symm hn.1) (Or.inr hl), ih hn.2]
    cases l with
    | nil => rfl
    | cons d l => simp

/-! ## A line feed between two texts -/

/-- A text is split at the first occurrence of a character, or has none. -/
theorem induction_pieces (x : Char) {P : List Char → Prop} (last : ∀ l, x ∉ l → P l)
    (piece : ∀ l s, x ∉ l → P s → P (l ++ x :: s)) (t : List Char) : P t := by
  induction h : t.length using Nat.strongRecOn generalizing t with
  | ind n ih =>
    cases hc : cut? x t with
    | none => exact last t (cut?_eq_none_iff.mp hc)
    | some p =>
      obtain ⟨rfl, hn⟩ := cut?_eq_some_iff.mp hc
      refine piece p.1 p.2 hn (ih p.2.length ?_ p.2 rfl)
      rw [← h, List.length_append, List.length_cons]
      omega

/-- A text is split at its first line feed, or has none. -/
theorem induction_lines {P : List Char → Prop} (last : ∀ l, '\n' ∉ l → P l)
    (line : ∀ l s, '\n' ∉ l → P s → P (l ++ '\n' :: s)) (t : List Char) : P t :=
  induction_pieces '\n' last line t

/-- **A line feed between two texts keeps the lines of the second.** -/
theorem lines_append_newline (t s : List Char) :
    lines (t ++ '\n' :: s) = lines (t ++ ['\n']) ++ lines s := by
  induction t using induction_lines with
  | last l hn =>
    rw [lines_append_chomp hn, lines_append_chomp hn]
    rfl
  | line l u hn ih =>
    rw [List.append_assoc, List.append_assoc, List.cons_append, List.cons_append,
      lines_append_chomp hn, lines_append_chomp hn, ih, List.cons_append]

/-- **A text has as many lines before a line feed as it has line feeds, and one more.** -/
theorem length_lines_newline (t : List Char) :
    (lines (t ++ ['\n'])).length = t.count '\n' + 1 := by
  induction t using induction_lines with
  | last l hn =>
    rw [lines_append_chomp hn, List.count_eq_zero_of_not_mem hn]
    rfl
  | line l u hn ih =>
    rw [List.append_assoc, List.cons_append, lines_append_chomp hn, List.length_cons, ih,
      List.count_append, List.count_eq_zero_of_not_mem hn, List.count_cons_self]
    omega

/-- **A line feed behind a text touches its last line only**: that line loses its carriage return,
or it is new and empty. -/
theorem exists_last_line (t : List Char) :
    ∃ ls l, lines (t ++ ['\n']) = ls ++ [chomp l] ∧
      lines t = ls ++ if l = [] then [] else [l] := by
  induction t using induction_lines with
  | last l hn =>
    exact ⟨[], l, lines_append_chomp hn [], lines_of_not_mem hn⟩
  | line m u hn ih =>
    obtain ⟨ls, l, hu, ht⟩ := ih
    refine ⟨chomp m :: ls, l, ?_, ?_⟩
    · rw [List.append_assoc, List.cons_append, lines_append_chomp hn, hu, List.cons_append]
    · rw [lines_append_chomp hn, ht, List.cons_append]

theorem length_lines_le (t : List Char) : (lines t).length ≤ t.count '\n' + 1 := by
  obtain ⟨ls, l, hnew, ht⟩ := exists_last_line t
  have hlen := length_lines_newline t
  rw [hnew, List.length_append, List.length_singleton] at hlen
  rw [ht, List.length_append]
  split
  · exact Nat.le.intro hlen
  · exact Nat.le_of_eq hlen

/-- A line feed behind a text leaves the lines before its last as they are. -/
theorem take_lines_newline {n : Nat} {t : List Char} (hn : n < (lines t).length) :
    (lines (t ++ ['\n'])).take n = (lines t).take n := by
  obtain ⟨ls, l, hnew, ht⟩ := exists_last_line t
  have hle : n ≤ ls.length := by
    rw [ht, List.length_append] at hn
    split at hn
    · exact Nat.le_of_lt hn
    · exact Nat.le_of_lt_succ hn
  rw [hnew, ht, List.take_append_of_le_length hle, List.take_append_of_le_length hle]

/-- **Lines with a line feed between them are read back**, unless a carriage return or nothing
stands before a line feed or the end. -/
theorem lines_intercalate {ls : List (List Char)} (hn : ∀ l ∈ ls, '\n' ∉ l)
    (hr : ∀ l ∈ ls, l.getLast? ≠ some '\r') (he : ∀ l ∈ ls, l ≠ []) :
    lines (['\n'].intercalate ls) = ls := by
  induction ls with
  | nil => rfl
  | cons l ls ih =>
    have hl := List.mem_cons_self (a := l) (l := ls)
    have ih' := ih (fun m hm => hn m (List.mem_cons_of_mem l hm))
      (fun m hm => hr m (List.mem_cons_of_mem l hm)) fun m hm => he m (List.mem_cons_of_mem l hm)
    cases ls with
    | nil => rw [List.intercalate_singleton, lines_of_not_mem (hn l hl), if_neg (he l hl)]
    | cons m ls =>
      rw [List.intercalate_cons_cons, List.append_assoc, List.singleton_append,
        lines_line (hn l hl) (hr l hl), ih']

/-! ## The first lines of a text -/

/-- The first lines of a text as they stand there, with their endings. A last line without an ending
gets a line feed. -/
def firstLines : Nat → List Char → List Char
  | 0, _ => []
  | n + 1, s =>
    match cut? '\n' s with
    | none => s ++ ['\n']
    | some (l, t) => l ++ '\n' :: firstLines n t

theorem firstLines_of_not_mem {s : List Char} (h : '\n' ∉ s) (n : Nat) :
    firstLines (n + 1) s = s ++ ['\n'] := by
  rw [firstLines, cut?_eq_none_iff.mpr h]

theorem firstLines_line {l : List Char} (h : '\n' ∉ l) (n : Nat) (s : List Char) :
    firstLines (n + 1) (l ++ '\n' :: s) = l ++ '\n' :: firstLines n s := by
  rw [firstLines, cut?_append h]

/-- **Behind the first lines of a text, the lines of another text follow.** -/
theorem lines_firstLines_append {n : Nat} {s : List Char} (hn : n ≤ s.count '\n' + 1)
    (t : List Char) :
    lines (firstLines n s ++ t) = (lines (s ++ ['\n'])).take n ++ lines t := by
  induction s using induction_lines generalizing n with
  | last l hl =>
    rw [List.count_eq_zero_of_not_mem hl] at hn
    obtain rfl | rfl : n = 0 ∨ n = 1 := by omega
    · rfl
    · rw [firstLines_of_not_mem hl, List.append_assoc, List.singleton_append,
        lines_append_chomp hl, lines_append_chomp hl]
      rfl
  | line l u hl ih =>
    rw [List.count_append, List.count_eq_zero_of_not_mem hl, List.count_cons_self] at hn
    cases n with
    | zero => rfl
    | succ n =>
      rw [firstLines_line hl, List.append_assoc, List.cons_append, lines_append_chomp hl,
        ih (by omega), List.append_assoc, List.cons_append, lines_append_chomp hl]
      rfl

/-! ## Numbered lines -/

/-- Lines with their numbers, counted from `n`. -/
def number (n : Nat) (ls : List (List Char)) : List (Nat × List Char) :=
  (ls.zipIdx n).map Prod.swap

@[simp] theorem number_nil (n : Nat) : number n [] = [] := rfl

@[simp] theorem number_cons (n : Nat) (l : List Char) (ls : List (List Char)) :
    number n (l :: ls) = (n, l) :: number (n + 1) ls := rfl

theorem numberedLines_eq (s : List Char) : numberedLines s = number 1 (lines s) := rfl

theorem number_append (n : Nat) (ls ms : List (List Char)) :
    number n (ls ++ ms) = number n ls ++ number (n + ls.length) ms := by
  simp [number, List.zipIdx_append]

theorem number_add (n k : Nat) (ls : List (List Char)) :
    number (n + k) ls = (number n ls).map fun p => (p.1 + k, p.2) := by
  induction ls generalizing n with
  | nil => rfl
  | cons l ls ih => rw [number_cons, number_cons, List.map_cons, ← ih, Nat.add_right_comm]

theorem number_eq_append_cons {n m : Nat} {l : List Char} {ls : List (List Char)}
    {before behind : List (Nat × List Char)} (h : number n ls = before ++ (m, l) :: behind) :
    ∃ a b, ls = a ++ l :: b ∧ before = number n a ∧ m = n + a.length := by
  induction before generalizing n ls with
  | nil =>
    cases ls with
    | nil => cases h
    | cons k ls =>
      rw [number_cons, List.nil_append, List.cons.injEq, Prod.mk.injEq] at h
      obtain ⟨⟨rfl, rfl⟩, -⟩ := h
      exact ⟨[], ls, rfl, rfl, rfl⟩
  | cons p before ih =>
    cases ls with
    | nil => cases h
    | cons k ls =>
      rw [number_cons, List.cons_append, List.cons.injEq] at h
      obtain ⟨rfl, h⟩ := h
      obtain ⟨a, b, rfl, rfl, rfl⟩ := ih h
      refine ⟨k :: a, b, rfl, rfl, ?_⟩
      rw [List.length_cons]
      omega

theorem mem_number {n m : Nat} {l : List Char} {ls : List (List Char)} :
    (m, l) ∈ number n ls ↔ n ≤ m ∧ ls[m - n]? = some l := by
  induction ls generalizing n with
  | nil => simp
  | cons k ls ih =>
    rw [number_cons, List.mem_cons, ih, Prod.mk.injEq]
    by_cases h : n < m
    · obtain ⟨j, hj⟩ := Nat.exists_eq_add_of_lt h
      have h1 : m - n = j + 1 := by omega
      have h2 : m - (n + 1) = j := by omega
      rw [h1, h2, List.getElem?_cons_succ]
      constructor
      · rintro (⟨rfl, -⟩ | ⟨-, hl⟩)
        · omega
        · exact ⟨by omega, hl⟩
      · exact fun hl => Or.inr ⟨by omega, hl.2⟩
    · constructor
      · rintro (⟨rfl, rfl⟩ | ⟨hm, -⟩)
        · simp
        · omega
      · rintro ⟨hm, hl⟩
        obtain rfl : n = m := by omega
        rw [Nat.sub_self, List.getElem?_cons_zero, Option.some.injEq] at hl
        exact Or.inl ⟨rfl, hl.symm⟩

end DartModels.Text
