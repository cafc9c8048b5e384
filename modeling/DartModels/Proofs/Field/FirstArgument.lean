import DartModels.Proofs.Declaration.Grammar
import DartModels.Proofs.Field.TopLevel
import Mathlib.Algebra.BigOperators.Group.Finset.Piecewise
import Mathlib.Combinatorics.Hall.Basic

/-!
# The first argument, place by place

Which places of the arguments are at top level, without a reader and without a count. A place is in
no literal if what stands before it is made of characters that open none and of whole literals
(`Closed`); so a literal that nothing closes goes on to the end. It is in no bracket if the brackets
that are opened before it are paid off before it (`PaysOff`): each of them is assigned one that
closes, behind it and of whatever kind, and no two are assigned the same. One that closes and is
assigned to none is of no account.

The reader's count is zero where every stretch of text that ends there closes at least as many
brackets as it opens, and that is what Hall's theorem asks for of such an assignment.

Results:
* `closed_iff`: literals are closed where a reader stands in none;
* `exists_injOn_lt_iff`: places can be assigned to others behind them just if from each place on
  there are enough;
* `exists_paysOff_iff`, `atTopLevel_iff`: a place is at top level in this sense just if it is in the
  sense of counting;
* `upToComma_iff`: so the arguments' first one is the same in both;
* `firstArgument_upToComma`: `firstArgument` cuts at the first comma at top level.
-/

namespace DartModels.Call

open Declaration (LiteralTail)

/-- All literals of a text are closed: it is made of whole literals, and of characters that open
none. -/
inductive Closed : List Char → Prop
  | nil : Closed []
  | char {c : Char} {s : List Char} (hs : c ≠ '\'') (hd : c ≠ '"') (h : Closed s) :
      Closed (c :: s)
  | literal {q : Char} {l s : List Char} (hq : q = '\'' ∨ q = '"') (hl : LiteralTail q l)
      (h : Closed s) : Closed (q :: l ++ s)

/-- At a place of a text stands a character of some kind, in no literal. -/
structure StandsAt (kind : Char → Bool) (s : List Char) (i : Nat) : Prop where
  char : s[i]?.any kind = true
  literals : Closed (s.take i)

/-- The brackets that a text opens are paid off: each is assigned one that closes behind it, of
whatever kind, and of its own. -/
structure PaysOff (pay : Nat → Nat) (s : List Char) : Prop where
  behind : ∀ i, StandsAt opensBracket s i → i < pay i
  closes : ∀ i, StandsAt opensBracket s i → StandsAt closesBracket s (pay i)
  own : ∀ i j, StandsAt opensBracket s i → StandsAt opensBracket s j → pay i = pay j → i = j

/-- A place of the arguments is in no literal, and the brackets that are opened before it are paid
off before it. -/
structure AtTopLevel (arguments : List Char) (i : Nat) : Prop where
  literals : Closed (arguments.take i)
  brackets : ∃ pay, PaysOff pay (arguments.take i)

/-- A text begins the arguments, no comma of it is at top level, and either it is all of them or a
comma at top level stands behind it. -/
structure UpToComma (first arguments : List Char) : Prop where
  isPrefixOf : first <+: arguments
  undivided : ∀ i, first[i]? = some ',' → ¬ AtTopLevel arguments i
  ends : first = arguments ∨
    arguments[first.length]? = some ',' ∧ AtTopLevel arguments first.length

/-! ## Literals -/

theorem after_literalTail {q : Char} {l : List Char} (h : LiteralTail q l)
    (hq : q = '\'' ∨ q = '"') : (Quoting.inside q).after l = .outside :=
  (Declaration.walk_quoting (h.walk hq 0)).symm

/-- What is left of a text whose literals are all closed, from wherever a reader stands in it. -/
def ClosedFrom : Quoting → List Char → Prop
  | .outside, s => Closed s
  | .inside q, s => ∃ l t, s = l ++ t ∧ LiteralTail q l ∧ Closed t
  | .escaped q, s => ∃ c l t, s = c :: l ++ t ∧ LiteralTail q l ∧ Closed t

/-- A character is read in front of what is left. -/
theorem ClosedFrom.cons {q : Quoting} {c : Char} {s : List Char} (h : ClosedFrom (q.next c) s) :
    ClosedFrom q (c :: s) := by
  cases q with
  | outside =>
    by_cases hc : c = '\'' ∨ c = '"'
    · rw [Quoting.next_outside, if_pos (Declaration.opens_iff.mpr hc)] at h
      obtain ⟨l, t, rfl, hl, ht⟩ := h
      exact .literal hc hl ht
    · rw [Quoting.next_outside, if_neg (fun ho => hc (Declaration.opens_iff.mp ho))] at h
      rw [not_or] at hc
      exact .char hc.1 hc.2 h
  | inside q =>
    rw [Quoting.next_inside] at h
    by_cases he : c = '\\'
    · subst he
      obtain ⟨b, l, t, rfl, hl, ht⟩ := h
      exact ⟨'\\' :: b :: l, t, rfl, .escape b hl, ht⟩
    by_cases hc : c = q
    · subst hc
      rw [if_neg he, if_pos rfl] at h
      exact ⟨[c], s, rfl, .close, h⟩
    · rw [if_neg he, if_neg hc] at h
      obtain ⟨l, t, rfl, hl, ht⟩ := h
      exact ⟨c :: l, t, rfl, .char he hc hl, ht⟩
  | escaped q =>
    obtain ⟨l, t, rfl, hl, ht⟩ := h
    exact ⟨c, l, t, rfl, hl, ht⟩

theorem closedFrom_of_after {q : Quoting} {s : List Char} (h : q.after s = .outside) :
    ClosedFrom q s := by
  induction s generalizing q with
  | nil =>
    obtain rfl : q = .outside := h
    exact .nil
  | cons c s ih => exact (ih h).cons

/-- **Literals are closed where a reader stands in none.** -/
theorem closed_iff {s : List Char} : Closed s ↔ Quoting.outside.after s = .outside := by
  refine ⟨fun h => ?_, closedFrom_of_after⟩
  induction h with
  | nil => rfl
  | char hs hd _ ih =>
    have hopens := Bool.eq_false_iff.mpr fun ho => (Declaration.opens_iff.mp ho).elim hs hd
    rw [Quoting.after_cons, Quoting.next_outside_of_not_opens hopens, ih]
  | literal hq hl _ ih =>
    rw [List.cons_append, Quoting.after_cons, Quoting.next_outside,
      if_pos (Declaration.opens_iff.mpr hq), Quoting.after_append, after_literalTail hl hq, ih]

/-! ## Places -/

/-- The places of a text where a character of some kind stands. -/
def places (kind : Char → Bool) (s : List Char) : Finset Nat :=
  (Finset.range s.length).filter fun i => s[i]?.any kind = true

theorem mem_places {kind : Char → Bool} {s : List Char} {i : Nat} :
    i ∈ places kind s ↔ s[i]?.any kind = true := by
  rw [places, Finset.mem_filter, Finset.mem_range, and_iff_right_iff_imp]
  intro h
  by_contra hle
  rw [List.getElem?_eq_none (Nat.le_of_not_lt hle)] at h
  cases h

/-- From a place on, as many characters are of some kind as stand at such places. -/
theorem card_places_from (kind : Char → Bool) (s : List Char) (n : Nat) :
    ((places kind s).filter (n ≤ ·)).card = (s.drop n).countP kind := by
  rw [places, Finset.filter_filter, Finset.card_filter]
  induction s generalizing n with
  | nil => simp
  | cons c s ih =>
    -- the first place counts only if it is counted from there
    rw [List.length_cons, Finset.sum_range_succ']
    cases n with
    | zero =>
      have h := ih 0
      simp only [List.drop_zero, Nat.zero_le, and_true] at h ⊢
      simp [List.countP_cons, h]
    | succ n => simpa using ih n

/-- Hall's condition: for some places there are as many others behind them, since there are behind
the least of them. -/
theorem card_le_card_biUnion {a b : Finset Nat} (hab : Disjoint a b)
    (h : ∀ n, (a.filter (n ≤ ·)).card ≤ (b.filter (n ≤ ·)).card) (s : Finset a) :
    s.card ≤ (s.biUnion fun i => b.filter (i.1 < ·)).card := by
  rcases s.eq_empty_or_nonempty with rfl | hs
  · exact Nat.zero_le _
  obtain ⟨least, hmem, hle⟩ : ∃ i ∈ s, ∀ j ∈ s, i ≤ j :=
    ⟨s.min' hs, s.min'_mem hs, fun j hj => s.min'_le j hj⟩
  have hfrom : s.map (Function.Embedding.subtype _) ⊆ a.filter (least.1 ≤ ·) := by
    intro i hi
    obtain ⟨j, hj, rfl⟩ := Finset.mem_map.mp hi
    exact Finset.mem_filter.mpr ⟨j.2, hle j hj⟩
  have hbehind : b.filter (least.1 ≤ ·) ⊆ s.biUnion fun i => b.filter (i.1 < ·) := by
    intro i hi
    obtain ⟨hib, hi⟩ := Finset.mem_filter.mp hi
    have hne : least.1 ≠ i := fun e => Finset.disjoint_left.mp hab least.2 (e ▸ hib)
    exact Finset.mem_biUnion.mpr
      ⟨least, hmem, Finset.mem_filter.mpr ⟨hib, Nat.lt_of_le_of_ne hi hne⟩⟩
  calc s.card = (s.map (Function.Embedding.subtype _)).card := (Finset.card_map _).symm
    _ ≤ (a.filter (least.1 ≤ ·)).card := Finset.card_le_card hfrom
    _ ≤ (b.filter (least.1 ≤ ·)).card := h least
    _ ≤ (s.biUnion fun i => b.filter (i.1 < ·)).card := Finset.card_le_card hbehind

/-- **Places can be assigned to others behind them**, no two to the same, just if from each place on
there are as many of the others. -/
theorem exists_injOn_lt_iff {a b : Finset Nat} (hab : Disjoint a b) :
    (∃ f : Nat → Nat, (∀ i ∈ a, i < f i ∧ f i ∈ b) ∧ Set.InjOn f a) ↔
      ∀ n, (a.filter (n ≤ ·)).card ≤ (b.filter (n ≤ ·)).card := by
  constructor
  · rintro ⟨f, hf, hinj⟩ n
    refine Finset.card_le_card_of_injOn f (fun i hi => ?_) (hinj.mono fun i hi => ?_)
    · obtain ⟨hi, hn⟩ := Finset.mem_filter.mp hi
      exact Finset.mem_filter.mpr ⟨(hf i hi).2, hn.trans (hf i hi).1.le⟩
    · exact (Finset.mem_filter.mp hi).1
  · intro h
    obtain ⟨f, hinj, hf⟩ := (Finset.all_card_le_biUnion_card_iff_exists_injective _).mp
      (card_le_card_biUnion hab h)
    refine ⟨fun i => if hi : i ∈ a then f ⟨i, hi⟩ else i, fun i hi => ?_, fun i hi j hj e => ?_⟩
    · simp only [dif_pos hi]
      exact (Finset.mem_filter.mp (hf ⟨i, hi⟩)).symm
    · rw [Finset.mem_coe] at hi hj
      simp only [dif_pos hi, dif_pos hj] at e
      exact congrArg Subtype.val (hinj e)

/-! ## Brackets -/

/-- A text with blanks in place of what stands in its literals. -/
def blankedFrom : Quoting → List Char → List Char
  | _, [] => []
  | .outside, c :: s => c :: blankedFrom (Quoting.outside.next c) s
  | q, c :: s => ' ' :: blankedFrom (q.next c) s

theorem blankedFrom_cons {q : Quoting} (hq : q ≠ .outside) (c : Char) (s : List Char) :
    blankedFrom q (c :: s) = ' ' :: blankedFrom (q.next c) s := by
  cases q with
  | outside => exact absurd rfl hq
  | inside q => rfl
  | escaped q => rfl

/-- Blanks have no influence on a count of brackets. -/
theorem foldl_nextDepth_blankedFrom (depth : Nat) (q : Quoting) (s : List Char) :
    (blankedFrom q s).foldl nextDepth depth = (unquotedFrom q s).foldl nextDepth depth := by
  induction s generalizing depth q with
  | nil => rfl
  | cons c s ih =>
    by_cases hq : q = .outside
    · subst hq
      exact ih (nextDepth depth c) _
    · rw [blankedFrom_cons hq, unquotedFrom_cons hq]
      exact ih depth _

/-- A character that is no blank stands in no literal. -/
theorem any_blankedFrom {kind : Char → Bool} (hkind : kind ' ' = false) (q : Quoting)
    (s : List Char) (i : Nat) : (blankedFrom q s)[i]?.any kind = true ↔
      s[i]?.any kind = true ∧ q.after (s.take i) = .outside := by
  induction s generalizing q i with
  | nil => simp [blankedFrom]
  | cons c s ih =>
    by_cases hq : q = .outside
    · subst hq
      cases i with
      | zero => simp [blankedFrom]
      | succ i => simpa [blankedFrom] using ih _ i
    · rw [blankedFrom_cons hq]
      cases i with
      | zero => simp [hkind, hq]
      | succ i => simpa using ih _ i

theorem standsAt_iff {kind : Char → Bool} (hkind : kind ' ' = false) {s : List Char} {i : Nat} :
    StandsAt kind s i ↔ i ∈ places kind (blankedFrom .outside s) := by
  rw [mem_places, any_blankedFrom hkind, ← closed_iff]
  exact ⟨fun h => ⟨h.char, h.literals⟩, fun h => ⟨h.1, h.2⟩⟩

theorem disjoint_places (s : List Char) :
    Disjoint (places opensBracket s) (places closesBracket s) := by
  rw [Finset.disjoint_left]
  intro i ho hc
  rw [mem_places, Option.any_eq_true] at ho hc
  obtain ⟨c, hc', ho⟩ := ho
  obtain ⟨d, hd, hc⟩ := hc
  obtain rfl : c = d := Option.some.inj (hc'.symm.trans hd)
  rw [closesBracket_of_opensBracket ho] at hc
  cases hc

/-- What a text ends with is what stands from a place on. -/
theorem paidOff_iff_drop {s : List Char} :
    PaidOff s ↔ ∀ n, (s.drop n).countP opensBracket ≤ (s.drop n).countP closesBracket := by
  refine ⟨fun h n => h _ (List.drop_suffix n s), fun h t ht => ?_⟩
  rw [List.suffix_iff_eq_drop.mp ht]
  exact h _

/-- Blanks have no influence on whether brackets are paid off. -/
theorem paidOff_blankedFrom {s : List Char} :
    PaidOff (blankedFrom .outside s) ↔ PaidOff (unquotedFrom .outside s) := by
  rw [paidOff_iff_foldl, paidOff_iff_foldl, foldl_nextDepth_blankedFrom]

/-- **Brackets are paid off just if they can be assigned** others that close. -/
theorem exists_paysOff_iff {s : List Char} :
    (∃ pay, PaysOff pay s) ↔ PaidOff (unquotedFrom .outside s) := by
  have hopens : ∀ i, StandsAt opensBracket s i ↔
      i ∈ places opensBracket (blankedFrom .outside s) := fun _ => standsAt_iff rfl
  have hcloses : ∀ i, StandsAt closesBracket s i ↔
      i ∈ places closesBracket (blankedFrom .outside s) := fun _ => standsAt_iff rfl
  -- with the literals blanked out every bracket keeps its place, so that places can be counted
  rw [← paidOff_blankedFrom, paidOff_iff_drop]
  simp only [← card_places_from]
  rw [← exists_injOn_lt_iff (disjoint_places _)]
  refine exists_congr fun pay => ⟨fun h => ⟨fun i hi => ?_, fun i hi j hj => ?_⟩, fun h => ?_⟩
  · have hi := (hopens i).mpr hi
    exact ⟨h.behind i hi, (hcloses _).mp (h.closes i hi)⟩
  · exact h.own i j ((hopens i).mpr hi) ((hopens j).mpr hj)
  · obtain ⟨hpay, hown⟩ := h
    exact ⟨fun i hi => (hpay i ((hopens i).mp hi)).1,
      fun i hi => (hcloses _).mpr (hpay i ((hopens i).mp hi)).2,
      fun i j hi hj => hown ((hopens i).mp hi) ((hopens j).mp hj)⟩

/-! ## Top level -/

/-- **A place is at top level** just if what stands before it ends at top level. -/
theorem atTopLevel_iff {arguments : List Char} {i : Nat} :
    AtTopLevel arguments i ↔ TopLevel (arguments.take i) :=
  ⟨fun h => ⟨closed_iff.mp h.literals, exists_paysOff_iff.mp h.brackets⟩,
    fun h => ⟨closed_iff.mpr h.literals, exists_paysOff_iff.mpr h.brackets⟩⟩

instance (arguments : List Char) (i : Nat) : Decidable (AtTopLevel arguments i) :=
  decidable_of_iff _ atTopLevel_iff.symm

/-- A character stands at a place if it is what follows the text before it. -/
theorem take_append_of_getElem? {c : Char} {s : List Char} {i : Nat} (h : s[i]? = some c) :
    s.take i ++ c :: s.drop (i + 1) = s := by
  obtain ⟨hi, rfl⟩ := List.getElem?_eq_some_iff.mp h
  rw [← List.drop_eq_getElem_cons hi, List.take_append_drop]

theorem atTopLevel_append {a b : List Char} : AtTopLevel (a ++ b) a.length ↔ TopLevel a := by
  rw [atTopLevel_iff, List.take_left]

/-- A text at the beginning of the arguments is undivided if none of its commas is at top level. -/
theorem undivided_iff_atTopLevel {s t : List Char} :
    Undivided s ↔ ∀ i, s[i]? = some ',' → ¬ AtTopLevel (s ++ t) i := by
  constructor
  · intro h i hi htop
    have hlt := (List.getElem?_eq_some_iff.mp hi).1
    rw [atTopLevel_iff, List.take_append_of_le_length hlt.le] at htop
    exact h _ _ (take_append_of_getElem? hi).symm htop
  · rintro h a b rfl htop
    refine h a.length (by simp) ?_
    rwa [List.append_assoc, atTopLevel_append]

/-- **The first argument is the same** place by place. -/
theorem upToComma_iff {first arguments : List Char} :
    UpToComma first arguments ↔ IsFirst first arguments := by
  constructor
  · rintro ⟨⟨t, rfl⟩, hundivided, hends⟩
    rw [← undivided_iff_atTopLevel] at hundivided
    rcases hends with hall | ⟨hcomma, htop⟩
    · rw [← hall]
      exact .whole hundivided
    · rw [atTopLevel_append] at htop
      have hsplit := take_append_of_getElem? hcomma
      rw [List.take_left] at hsplit
      rw [← hsplit]
      exact .cut hundivided htop _
  · intro h
    obtain ⟨t, rfl⟩ := h.isPrefixOf
    refine ⟨List.prefix_append _ _, undivided_iff_atTopLevel.mp h.undivided, ?_⟩
    generalize hs : first ++ t = s at h
    cases h with
    | whole _ => exact Or.inl rfl
    | cut _ htop rest => exact Or.inr ⟨by simp, atTopLevel_append.mpr htop⟩

/-- **The first argument goes up to the first comma at top level.** It begins the arguments, has
none itself, and is all of them or has one behind it; nothing else is like that. So arguments
without one are their own first argument, and what stands behind one has no influence. -/
theorem firstArgument_upToComma (arguments : List Char) :
    UpToComma (firstArgument arguments) arguments ∧
    (∀ first, UpToComma first arguments → first = firstArgument arguments) ∧
    ((∀ i, arguments[i]? = some ',' → ¬ AtTopLevel arguments i) →
      firstArgument arguments = arguments) ∧
    ∀ i, arguments[i]? = some ',' → AtTopLevel arguments i →
      ∀ rest, firstArgument (arguments.take (i + 1) ++ rest) = firstArgument arguments := by
  refine ⟨upToComma_iff.mpr (isFirst_firstArgument arguments), fun first h => ?_, fun h => ?_,
    fun i hi htop rest => ?_⟩
  · exact (upToComma_iff.mp h).unique (isFirst_firstArgument arguments)
  · have hundivided : Undivided arguments := by
      rw [undivided_iff_atTopLevel (t := []), List.append_nil]
      exact h
    exact undivided_iff_firstArgument.mp hundivided
  · rw [atTopLevel_iff] at htop
    calc firstArgument (arguments.take (i + 1) ++ rest)
        = firstArgument (arguments.take i ++ ',' :: rest) := by
          rw [List.take_add_one, hi, Option.toList_some, List.append_assoc, List.singleton_append]
      _ = firstArgument (arguments.take i) := firstArgument_append_comma htop rest
      _ = firstArgument (arguments.take i ++ ',' :: arguments.drop (i + 1)) :=
          (firstArgument_append_comma htop _).symm
      _ = firstArgument arguments := by rw [take_append_of_getElem? hi]

/-- A bracket that closes nothing, one that is paid off by another kind, and a literal that holds a
comma, a bracket and a quote; two commas at top level, and behind them a literal that nothing
closes. -/
theorem firstArgument_upToComma_surplus :
    (UpToComma "f)['\\',('\x7d".toList "f)['\\',('\x7d, g, \"h, (".toList ∧
      "f)['\\',('\x7d".toList = firstArgument "f)['\\',('\x7d, g, \"h, (".toList) ∧
    ((∀ i, "\"h, (".toList[i]? = some ',' → ¬ AtTopLevel "\"h, (".toList i) ∧
      firstArgument "\"h, (".toList = "\"h, (".toList) ∧
    AtTopLevel "f)['\\',('\x7d, g, \"h, (".toList 13 ∧
      firstArgument ("f)['\\',('\x7d, g, \"h, (".toList.take 14 ++ ")]".toList) =
        firstArgument "f)['\\',('\x7d, g, \"h, (".toList := by
  have hfirst : UpToComma "f)['\\',('\x7d".toList "f)['\\',('\x7d, g, \"h, (".toList := by
    refine ⟨by decide, fun i hi => ?_, Or.inr ⟨by decide, by decide⟩⟩
    have hcomma : ∀ i < 10, "f)['\\',('\x7d".toList[i]? = some ',' → i = 6 := by decide
    obtain rfl := hcomma i (List.getElem?_eq_some_iff.mp hi).1 hi
    decide
  have hopen : ∀ i, "\"h, (".toList[i]? = some ',' → ¬ AtTopLevel "\"h, (".toList i := by
    intro i hi
    have hcomma : ∀ i < 5, "\"h, (".toList[i]? = some ',' → i = 2 := by decide
    obtain rfl := hcomma i (List.getElem?_eq_some_iff.mp hi).1 hi
    decide
  have htop : AtTopLevel "f)['\\',('\x7d, g, \"h, (".toList 13 := by decide
  exact ⟨⟨hfirst, (firstArgument_upToComma _).2.1 _ hfirst⟩,
    ⟨hopen, (firstArgument_upToComma _).2.2.1 hopen⟩,
    htop, (firstArgument_upToComma _).2.2.2 13 (by decide) htop _⟩

end DartModels.Call
