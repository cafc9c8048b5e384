import DartModels.Field.Call

/-!
# Arguments and their top level

The arguments of a call are divided by the commas at top level, which stand in no literal and in no
bracket. A bracket that is opened is paid off by one that closes behind it, of whatever kind, and
one that closes too much counts for nothing. So a place is in no bracket if every stretch of text
that ends there closes at least as many brackets as it opens (`PaidOff`); a reader that counts the
open ones comes to zero at just these places.

Results:
* `mem_unquotedFrom_iff`: what stands in no literal is what a reader comes to in none;
* `foldl_nextDepth_eq_zero_iff`, `topLevel_iff`: top level is where the count is zero, outside of
  literals;
* `IsFirst.unique`: arguments have one first argument only;
* `firstArgument_eq_iff`: it is what goes up to the first comma at top level, or all there is;
* `firstArgument_append_comma`: what follows a comma at top level has no influence on it.
-/

namespace DartModels.Call

/-- The characters of a text that stand in no literal, quotes that open one among them. -/
def unquotedFrom : Quoting → List Char → List Char
  | _, [] => []
  | .outside, c :: s => c :: unquotedFrom (Quoting.outside.next c) s
  | q, c :: s => unquotedFrom (q.next c) s

/-- Every bracket that is opened is paid off by one that closes behind it: what a text ends with
closes at least as many as it opens. -/
def PaidOff (s : List Char) : Prop :=
  ∀ t, t <:+ s → t.countP opensBracket ≤ t.countP closesBracket

/-- The place behind a text is in no literal and in no bracket. -/
structure TopLevel (s : List Char) : Prop where
  literals : Quoting.outside.after s = .outside
  brackets : PaidOff (unquotedFrom .outside s)

/-- No comma of a text is at top level. -/
def Undivided (s : List Char) : Prop :=
  ∀ a b, s = a ++ ',' :: b → ¬ TopLevel a

/-- A text begins the arguments, no comma of it is at top level, and either it is all of them or it
ends at top level and a comma follows. -/
inductive IsFirst (first : List Char) : List Char → Prop
  | whole (h : Undivided first) : IsFirst first first
  | cut (h : Undivided first) (hend : TopLevel first) (rest : List Char) :
      IsFirst first (first ++ ',' :: rest)

/-! ## Characters outside of literals -/

theorem unquotedFrom_cons {q : Quoting} (hq : q ≠ .outside) (c : Char) (s : List Char) :
    unquotedFrom q (c :: s) = unquotedFrom (q.next c) s := by
  cases q with
  | outside => exact absurd rfl hq
  | inside q => rfl
  | escaped q => rfl

theorem unquotedFrom_append (q : Quoting) (a b : List Char) :
    unquotedFrom q (a ++ b) = unquotedFrom q a ++ unquotedFrom (q.after a) b := by
  induction a generalizing q with
  | nil => rfl
  | cons c a ih =>
    by_cases hq : q = .outside
    · subst hq
      exact congrArg (c :: ·) (ih _)
    · rw [List.cons_append, unquotedFrom_cons hq, unquotedFrom_cons hq, ih, Quoting.after_cons]

/-- A character stands outside of literals where a reader comes to it in none. -/
theorem mem_unquotedFrom_iff {q : Quoting} {c : Char} {s : List Char} :
    c ∈ unquotedFrom q s ↔ ∃ a b, s = a ++ c :: b ∧ q.after a = .outside := by
  constructor
  · intro h
    induction s generalizing q with
    | nil => simp [unquotedFrom] at h
    | cons d s ih =>
      have htail : c ∈ unquotedFrom (q.next d) s →
          ∃ a b, d :: s = a ++ c :: b ∧ q.after a = .outside := by
        intro hm
        obtain ⟨a, b, rfl, ha⟩ := ih hm
        exact ⟨d :: a, b, rfl, ha⟩
      by_cases hq : q = .outside
      · subst hq
        rcases List.mem_cons.mp h with rfl | h
        · exact ⟨[], s, rfl, rfl⟩
        · exact htail h
      · rw [unquotedFrom_cons hq] at h
        exact htail h
  · rintro ⟨a, b, rfl, ha⟩
    rw [unquotedFrom_append, ha]
    exact List.mem_append_right _ List.mem_cons_self

/-! ## Counting brackets -/

theorem paidOff_cons_iff {c : Char} {s : List Char} : PaidOff (c :: s) ↔
    (c :: s).countP opensBracket ≤ (c :: s).countP closesBracket ∧ PaidOff s := by
  constructor
  · intro h
    exact ⟨h _ List.suffix_rfl, fun t ht => h t (ht.trans (List.suffix_cons c s))⟩
  · rintro ⟨hall, hs⟩ t ht
    rcases List.suffix_cons_iff.mp ht with rfl | ht
    · exact hall
    · exact hs t ht

/-- No bracket both opens and closes. -/
theorem closesBracket_of_opensBracket {c : Char} (h : opensBracket c = true) :
    closesBracket c = false := by
  simp only [opensBracket, Bool.or_eq_true, beq_iff_eq] at h
  rcases h with (rfl | rfl) | rfl <;> rfl

/-- **A count of the open brackets comes to zero** if the text closes those that were open before it
and pays off its own. -/
theorem foldl_nextDepth_eq_zero_iff {depth : Nat} {s : List Char} :
    s.foldl nextDepth depth = 0 ↔
      depth + s.countP opensBracket ≤ s.countP closesBracket ∧ PaidOff s := by
  induction s generalizing depth with
  | nil =>
    have hnil : PaidOff [] := fun t ht => by rw [List.suffix_nil.mp ht]; exact Nat.le_refl _
    simp [hnil]
  | cons c s ih =>
    have hself : PaidOff s → s.countP opensBracket ≤ s.countP closesBracket :=
      fun h => h s List.suffix_rfl
    rw [List.foldl_cons, ih, paidOff_cons_iff, List.countP_cons, List.countP_cons, nextDepth]
    cases ho : opensBracket c with
    | true =>
      have hc := closesBracket_of_opensBracket ho
      simp only [hc, if_true, Bool.false_eq_true, if_false]
      constructor
      · rintro ⟨hle, hs⟩
        exact ⟨by omega, by omega, hs⟩
      · rintro ⟨hle, -, hs⟩
        exact ⟨by omega, hs⟩
    | false =>
      cases hc : closesBracket c with
      | true =>
        simp only [if_true, Bool.false_eq_true, if_false]
        constructor
        · rintro ⟨hle, hs⟩
          have := hself hs
          exact ⟨by omega, by omega, hs⟩
        · rintro ⟨hle, -, hs⟩
          have := hself hs
          exact ⟨by omega, hs⟩
      | false =>
        simp only [Bool.false_eq_true, if_false]
        constructor
        · rintro ⟨hle, hs⟩
          exact ⟨by omega, by omega, hs⟩
        · rintro ⟨hle, -, hs⟩
          exact ⟨by omega, hs⟩

/-- A count from the beginning comes to zero if the text pays off its own brackets. -/
theorem paidOff_iff_foldl {s : List Char} : PaidOff s ↔ s.foldl nextDepth 0 = 0 := by
  rw [foldl_nextDepth_eq_zero_iff, Nat.zero_add]
  exact ⟨fun h => ⟨h _ List.suffix_rfl, h⟩, And.right⟩

/-- Behind a text that is read from a place with `depth` brackets open, none is, nor a literal. -/
structure TopLevelFrom (depth : Nat) (q : Quoting) (s : List Char) : Prop where
  literals : q.after s = .outside
  brackets : (unquotedFrom q s).foldl nextDepth depth = 0

/-- **Top level is where no brackets are counted**, outside of literals. -/
theorem topLevel_iff {s : List Char} : TopLevel s ↔ TopLevelFrom 0 .outside s :=
  ⟨fun h => ⟨h.literals, paidOff_iff_foldl.mp h.brackets⟩,
    fun h => ⟨h.literals, paidOff_iff_foldl.mpr h.brackets⟩⟩

instance (s : List Char) : Decidable (TopLevel s) :=
  decidable_of_iff
    (Quoting.outside.after s = .outside ∧ (unquotedFrom .outside s).foldl nextDepth 0 = 0)
    ⟨fun h => topLevel_iff.mpr ⟨h.1, h.2⟩, fun h => ⟨h.literals, (topLevel_iff.mp h).brackets⟩⟩

theorem topLevelFrom_nil_iff {depth : Nat} {q : Quoting} :
    TopLevelFrom depth q [] ↔ q = .outside ∧ depth = 0 :=
  ⟨fun h => ⟨h.literals, h.brackets⟩, fun h => ⟨h.1, h.2⟩⟩

theorem topLevelFrom_outside_cons_iff {depth : Nat} {c : Char} {s : List Char} :
    TopLevelFrom depth .outside (c :: s) ↔
      TopLevelFrom (nextDepth depth c) (Quoting.outside.next c) s :=
  ⟨fun h => ⟨h.literals, h.brackets⟩, fun h => ⟨h.literals, h.brackets⟩⟩

theorem topLevelFrom_cons_iff {depth : Nat} {q : Quoting} (hq : q ≠ .outside) {c : Char}
    {s : List Char} : TopLevelFrom depth q (c :: s) ↔ TopLevelFrom depth (q.next c) s := by
  cases q with
  | outside => exact absurd rfl hq
  | inside q => exact ⟨fun h => ⟨h.literals, h.brackets⟩, fun h => ⟨h.literals, h.brackets⟩⟩
  | escaped q => exact ⟨fun h => ⟨h.literals, h.brackets⟩, fun h => ⟨h.literals, h.brackets⟩⟩

/-! ## The first argument -/

/-- No comma of a text that is read from a place with `depth` brackets open is at top level. -/
def UndividedFrom (depth : Nat) (q : Quoting) (s : List Char) : Prop :=
  ∀ a b, s = a ++ ',' :: b → ¬ TopLevelFrom depth q a

theorem undivided_iff {s : List Char} : Undivided s ↔ UndividedFrom 0 .outside s :=
  forall₂_congr fun _ _ => imp_congr_right fun _ => not_congr topLevel_iff

theorem undividedFrom_nil (depth : Nat) (q : Quoting) : UndividedFrom depth q [] := by
  intro a b h
  simp at h

/-- A character is read without a cut, and the text behind it. -/
theorem undividedFrom_cons {depth next : Nat} {q : Quoting} {c : Char} {s : List Char}
    (hc : c = ',' → ¬ TopLevelFrom depth q [])
    (hnext : ∀ a, TopLevelFrom depth q (c :: a) ↔ TopLevelFrom next (q.next c) a)
    (hs : UndividedFrom next (q.next c) s) : UndividedFrom depth q (c :: s) := by
  intro a b h
  cases a with
  | nil => exact hc (List.cons.inj h).1
  | cons d a =>
    obtain ⟨rfl, rfl⟩ := List.cons.inj h
    rw [hnext]
    exact hs a b rfl

/-- What is read up to the first comma at top level, from a place with `depth` brackets open. -/
def IsFirstFrom (depth : Nat) (q : Quoting) (first s : List Char) : Prop :=
  UndividedFrom depth q first ∧
    (first = s ∨ TopLevelFrom depth q first ∧ ∃ rest, s = first ++ ',' :: rest)

theorem IsFirstFrom.cons {depth next : Nat} {q : Quoting} {c : Char} {first s : List Char}
    (hc : c = ',' → ¬ TopLevelFrom depth q [])
    (hnext : ∀ a, TopLevelFrom depth q (c :: a) ↔ TopLevelFrom next (q.next c) a)
    (h : IsFirstFrom next (q.next c) first s) : IsFirstFrom depth q (c :: first) (c :: s) := by
  obtain ⟨hundivided, hend⟩ := h
  refine ⟨undividedFrom_cons hc hnext hundivided, ?_⟩
  rcases hend with hall | ⟨htop, rest, hrest⟩
  · exact Or.inl (congrArg _ hall)
  · exact Or.inr ⟨(hnext first).mpr htop, rest, congrArg _ hrest⟩

/-- **A reader cuts arguments at the first comma at top level**, from wherever it starts. -/
theorem isFirstFrom_firstArgumentFrom (depth : Nat) (q : Quoting) (s : List Char) :
    IsFirstFrom depth q (firstArgumentFrom depth q s) s := by
  fun_induction firstArgumentFrom depth q s with
  | case1 depth q => exact ⟨undividedFrom_nil depth q, Or.inl rfl⟩
  | case2 depth c s h =>
    obtain ⟨rfl, rfl⟩ := h
    exact ⟨undividedFrom_nil 0 .outside,
      Or.inr ⟨topLevelFrom_nil_iff.mpr ⟨rfl, rfl⟩, s, rfl⟩⟩
  | case3 depth c s h ih =>
    exact ih.cons (fun hc htop => h ⟨hc, (topLevelFrom_nil_iff.mp htop).2⟩)
      fun _ => topLevelFrom_outside_cons_iff
  | case4 depth q c s hq ih =>
    exact ih.cons (fun _ htop => hq (topLevelFrom_nil_iff.mp htop).1)
      fun _ => topLevelFrom_cons_iff hq

theorem isFirst_firstArgument (arguments : List Char) :
    IsFirst (firstArgument arguments) arguments := by
  obtain ⟨hundivided, hend⟩ := isFirstFrom_firstArgumentFrom 0 .outside arguments
  rw [← firstArgument, ← undivided_iff] at hundivided
  rw [← firstArgument, ← topLevel_iff] at hend
  rcases hend with hall | ⟨htop, rest, hrest⟩
  · have h : IsFirst (firstArgument arguments) _ := .whole hundivided
    rwa [hall] at h ⊢
  · have h := IsFirst.cut hundivided htop rest
    rwa [← hrest] at h

theorem IsFirst.undivided {first arguments : List Char} (h : IsFirst first arguments) :
    Undivided first := by
  cases h with
  | whole h => exact h
  | cut h _ _ => exact h

theorem IsFirst.isPrefixOf {first arguments : List Char} (h : IsFirst first arguments) :
    first <+: arguments := by
  cases h with
  | whole _ => exact List.prefix_rfl
  | cut _ _ rest => exact List.prefix_append _ _

/-- A text at the beginning of the arguments that goes on where another ends is no shorter. -/
theorem IsFirst.eq_of_append {first more arguments : List Char} (h : IsFirst first arguments)
    (h' : IsFirst (first ++ more) arguments) : more = [] := by
  cases more with
  | nil => rfl
  | cons c more =>
    -- the longer one would be divided where the shorter one ends
    obtain ⟨rest, hrest⟩ := h'.isPrefixOf
    cases h with
    | whole _ => simp at hrest
    | cut _ htop rest' =>
      rw [List.append_assoc, List.append_right_inj, List.cons_append, List.cons.injEq] at hrest
      obtain ⟨rfl, -⟩ := hrest
      exact absurd htop (h'.undivided first more rfl)

/-- **Arguments have one first argument only.** -/
theorem IsFirst.unique {first first' arguments : List Char} (h : IsFirst first arguments)
    (h' : IsFirst first' arguments) : first = first' := by
  rcases List.prefix_or_prefix_of_prefix h.isPrefixOf h'.isPrefixOf with ⟨t, rfl⟩ | ⟨t, rfl⟩
  · rw [h.eq_of_append h', List.append_nil]
  · rw [h'.eq_of_append h, List.append_nil]

/-- **The first argument is what goes up to the first comma at top level**, or all there is. -/
theorem firstArgument_eq_iff {first arguments : List Char} :
    firstArgument arguments = first ↔ IsFirst first arguments :=
  ⟨fun h => h ▸ isFirst_firstArgument arguments, (isFirst_firstArgument arguments).unique⟩

/-- **What follows a comma at top level has no influence on the first argument.** -/
theorem firstArgument_append_comma {s : List Char} (h : TopLevel s) (rest : List Char) :
    firstArgument (s ++ ',' :: rest) = firstArgument s := by
  rw [firstArgument_eq_iff]
  have hfirst := isFirst_firstArgument s
  generalize firstArgument s = first at hfirst
  cases hfirst with
  | whole hundivided => exact .cut hundivided h rest
  | cut hundivided htop more =>
    rw [List.append_assoc, List.cons_append]
    exact .cut hundivided htop (more ++ ',' :: rest)

theorem undivided_of_not_mem {s : List Char} (h : ',' ∉ s) : Undivided s := by
  rintro a b rfl
  simp at h

theorem firstArgument_of_not_mem {s : List Char} (h : ',' ∉ s) : firstArgument s = s :=
  firstArgument_eq_iff.mpr (.whole (undivided_of_not_mem h))

theorem undivided_iff_firstArgument {s : List Char} : Undivided s ↔ firstArgument s = s :=
  ⟨fun h => firstArgument_eq_iff.mpr (.whole h), fun h => (firstArgument_eq_iff.mp h).undivided⟩

instance (s : List Char) : Decidable (Undivided s) :=
  decidable_of_iff _ undivided_iff_firstArgument.symm

end DartModels.Call
