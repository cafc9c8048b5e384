import DartModels.Proofs.Declaration.Walk

/-!
# The grammar of calls

What a call is, without a reader: texts are made of lexemes, which are literals and characters
outside of them. A text is `Plain` if none of its lexemes is a parenthesis, and `Balanced` if its
parentheses pair up. A call is a plain text, a parenthesis, a balanced text and a parenthesis.

Comments are no part of the grammar. A line is cut at its first number sign outside of literals
before it is looked at (`Bare`), so that sign is no lexeme.

Results:
* `lexed_of_walk`, `after_lexed`: a walk that ends in no literal reads lexemes, and lexemes end in
  no literal;
* `plain_walk`, `balanced_walk`, `walk_call`: plain and balanced texts are walked through at one
  depth, and a call into its own;
* `exists_open`, `balanced_of_walk`: a walk into a call passes a plain text and the parenthesis that
  opens it, and one that comes back to the call's own depth is balanced.
-/

namespace DartModels.Declaration

open Text

/-- What stands behind a quote, up to the quote that closes the literal. A backslash takes the
character behind it out of consideration. -/
inductive LiteralTail (q : Char) : List Char → Prop
  | close : LiteralTail q [q]
  | escape (c : Char) {s : List Char} (hs : LiteralTail q s) : LiteralTail q ('\\' :: c :: s)
  | char {c : Char} {s : List Char} (he : c ≠ '\\') (hq : c ≠ q) (hs : LiteralTail q s) :
      LiteralTail q (c :: s)

/-- What is read as a whole: a literal, or a character that starts neither one nor a comment. -/
inductive Lexeme : List Char → Prop
  | char {c : Char} (hs : c ≠ '\'') (hd : c ≠ '"') (hh : c ≠ '#') : Lexeme [c]
  | literal {q : Char} {s : List Char} (hq : q = '\'' ∨ q = '"') (hs : LiteralTail q s) :
      Lexeme (q :: s)

/-- Lexemes one after another. -/
inductive Lexed : List Char → Prop
  | nil : Lexed []
  | lexeme {l s : List Char} (hl : Lexeme l) (hs : Lexed s) : Lexed (l ++ s)

/-- Lexemes that are no parentheses. -/
inductive Plain : List Char → Prop
  | nil : Plain []
  | lexeme {l s : List Char} (hl : Lexeme l) (ho : l ≠ ['(']) (hc : l ≠ [')']) (hs : Plain s) :
      Plain (l ++ s)

/-- Lexemes whose parentheses pair up. -/
inductive Balanced : List Char → Prop
  | nil : Balanced []
  | lexeme {l s : List Char} (hl : Lexeme l) (ho : l ≠ ['(']) (hc : l ≠ [')'])
      (hs : Balanced s) : Balanced (l ++ s)
  | group {b s : List Char} (hb : Balanced b) (hs : Balanced s) :
      Balanced ('(' :: b ++ ')' :: s)

/-- `kept` is the line up to its first number sign outside of literals, and all literals of it are
closed. -/
structure Bare (line kept : List Char) : Prop where
  lexed : Lexed kept
  comment : ∃ t, line = kept ++ t ∧ (t = [] ∨ t.head? = some '#')

/-! ## Literals -/

theorem opens_iff {q : Char} : Quoting.opens q = true ↔ q = '\'' ∨ q = '"' := by
  rw [Quoting.opens, Bool.or_eq_true, beq_iff_eq, beq_iff_eq]

theorem LiteralTail.walk {q : Char} {s : List Char} (h : LiteralTail q s)
    (hq : q = '\'' ∨ q = '"') (d : Nat) : walk (d, .inside q) s = some (d, .outside) := by
  induction h with
  | close =>
    have hb : q ≠ '\\' := by
      rintro rfl
      exact absurd hq (by decide)
    rw [walk_cons, step_of_ne_outside (by simp), Quoting.next_inside, if_neg hb, if_pos rfl]
    rfl
  | escape c hs ih =>
    rw [walk_cons, step_of_ne_outside (by simp), Quoting.next_inside, if_pos rfl,
      Option.bind_some, walk_cons, step_of_ne_outside (by simp), Quoting.next_escaped]
    exact ih
  | char he hc hs ih =>
    rw [walk_cons, step_of_ne_outside (by simp), Quoting.next_inside, if_neg he, if_neg hc]
    exact ih

/-- A walk that leaves a literal passes the quote that closes it. -/
theorem exists_literalTail {d e : Nat} {q : Char} (s : List Char) :
    (walk (d, .inside q) s = some (e, .outside) →
      ∃ t u, s = t ++ u ∧ LiteralTail q t ∧ walk (d, .outside) u = some (e, .outside)) ∧
    (walk (d, .escaped q) s = some (e, .outside) →
      ∃ c t u, s = c :: t ++ u ∧ LiteralTail q t ∧ walk (d, .outside) u = some (e, .outside)) := by
  induction s with
  | nil => exact ⟨fun h => by simp at h, fun h => by simp at h⟩
  | cons c s ih =>
    refine ⟨fun h => ?_, fun h => ?_⟩
    · rw [walk_cons, step_of_ne_outside (by simp), Quoting.next_inside, Option.bind_some] at h
      by_cases he : c = '\\'
      · subst he
        obtain ⟨b, t, u, rfl, ht, hu⟩ := ih.2 h
        exact ⟨'\\' :: b :: t, u, rfl, .escape b ht, hu⟩
      by_cases hc : c = q
      · subst hc
        rw [if_neg he, if_pos rfl] at h
        exact ⟨[c], s, rfl, .close, h⟩
      · rw [if_neg he, if_neg hc] at h
        obtain ⟨t, u, rfl, ht, hu⟩ := ih.1 h
        exact ⟨c :: t, u, rfl, .char he hc ht, hu⟩
    · rw [walk_cons, step_of_ne_outside (by simp), Quoting.next_escaped, Option.bind_some] at h
      obtain ⟨t, u, rfl, ht, hu⟩ := ih.1 h
      exact ⟨c, t, u, rfl, ht, hu⟩

/-! ## Lexemes -/

theorem Lexeme.walk {l : List Char} (h : Lexeme l) (ho : l ≠ ['(']) (hc : l ≠ [')']) (d : Nat) :
    walk (d, .outside) l = some (d, .outside) := by
  cases h with
  | @char c hs hd hh =>
    have hq : Quoting.opens c = false :=
      Bool.eq_false_iff.mpr fun h => (opens_iff.mp h).elim hs hd
    rw [walk_cons, step_plain hh (fun e => ho (e ▸ rfl)) (fun e => hc (e ▸ rfl)),
      Quoting.next_outside_of_not_opens hq]
    rfl
  | @literal q s hq hs =>
    have hne : q ≠ '#' ∧ q ≠ '(' ∧ q ≠ ')' := by
      rcases hq with rfl | rfl <;> decide
    rw [walk_cons, step_plain hne.1 hne.2.1 hne.2.2, Quoting.next_outside,
      if_pos (opens_iff.mpr hq)]
    exact hs.walk hq d

theorem Lexeme.after {l : List Char} (h : Lexeme l) :
    Quoting.outside.after l = .outside := by
  by_cases ho : l = ['(']
  · subst ho
    rfl
  by_cases hc : l = [')']
  · subst hc
    rfl
  · exact (walk_quoting (h.walk ho hc 0)).symm

/-- Lexemes end in no literal. -/
theorem after_lexed {s : List Char} (h : Lexed s) : Quoting.outside.after s = .outside := by
  induction h with
  | nil => rfl
  | lexeme hl _ ih => rw [Quoting.after_append, hl.after, ih]

/-- **Induction on a walk from outside of literals to outside of literals**, lexeme by lexeme. -/
theorem walk_induction {P : Nat → List Char → Prop} {e : Nat} (nil : P e [])
    (opens : ∀ d s, walk (d + 1, .outside) s = some (e, .outside) → P (d + 1) s → P d ('(' :: s))
    (closes : ∀ d s, P (d + 1) s → P (d + 2) (')' :: s))
    (lexeme : ∀ d l s, Lexeme l → l ≠ ['('] → l ≠ [')'] → P d s → P d (l ++ s))
    {d : Nat} {s : List Char} (h : walk (d, .outside) s = some (e, .outside)) : P d s := by
  induction hn : s.length using Nat.strongRecOn generalizing d s with
  | ind n ih =>
    cases s with
    | nil =>
      obtain rfl := congrArg Prod.fst (Option.some.inj h)
      exact nil
    | cons c s =>
      rw [List.length_cons] at hn
      obtain ⟨p, hc, hs⟩ := walk_cons_eq_some_iff.mp h
      rcases step_outside_cases hc with ⟨rfl, rfl⟩ | ⟨rfl, k, rfl, rfl⟩ | ⟨hh, ho, hcl, rfl⟩
      · exact opens d s hs (ih s.length (by omega) hs rfl)
      · exact closes k s (ih s.length (by omega) hs rfl)
      · cases hq : Quoting.opens c with
        | false =>
          rw [Quoting.next_outside_of_not_opens hq] at hs
          rw [Bool.eq_false_iff, ne_eq, opens_iff, not_or] at hq
          exact lexeme d [c] s (.char hq.1 hq.2 hh) (by simpa using ho) (by simpa using hcl)
            (ih s.length (by omega) hs rfl)
        | true =>
          -- the literal is passed as a whole, so the induction is on the length
          rw [Quoting.next_outside, if_pos hq] at hs
          obtain ⟨t, u, rfl, ht, hu⟩ := (exists_literalTail s).1 hs
          rw [List.length_append] at hn
          exact lexeme d (c :: t) u (.literal (opens_iff.mp hq) ht)
            (fun h => ho (List.cons.inj h).1) (fun h => hcl (List.cons.inj h).1)
            (ih u.length (by omega) hu rfl)

/-- A walk that ends in no literal reads lexemes. -/
theorem lexed_of_walk {d e : Nat} {s : List Char}
    (h : walk (d, .outside) s = some (e, .outside)) : Lexed s := by
  refine walk_induction (P := fun _ => Lexed) .nil (fun d s _ ih => ?_) (fun d s ih => ?_)
    (fun d l s hl _ _ ih => .lexeme hl ih) h
  · exact .lexeme (.char (c := '(') (by decide) (by decide) (by decide)) ih
  · exact .lexeme (.char (c := ')') (by decide) (by decide) (by decide)) ih

/-! ## Parentheses -/

/-- Characters without a meaning of their own are a plain text. -/
theorem plain_of_forall {s : List Char}
    (h : ∀ c ∈ s, c ≠ '\'' ∧ c ≠ '"' ∧ c ≠ '#' ∧ c ≠ '(' ∧ c ≠ ')') : Plain s := by
  induction s with
  | nil => exact .nil
  | cons c s ih =>
    obtain ⟨hs, hd, hh, ho, hc⟩ := h c List.mem_cons_self
    exact .lexeme (.char hs hd hh) (by simpa using ho) (by simpa using hc)
      (ih fun d hd => h d (List.mem_cons_of_mem c hd))

theorem plain_walk {s : List Char} (h : Plain s) (d : Nat) :
    walk (d, .outside) s = some (d, .outside) := by
  induction h with
  | nil => rfl
  | lexeme hl ho hc _ ih => rw [walk_append, hl.walk ho hc, Option.bind_some, ih]

/-- **The parenthesis that opens a call** is the first behind a text that opens none. -/
theorem eq_of_walk_append_open {p p' s s' : List Char}
    (hp : walk (0, .outside) p = some (0, .outside))
    (hp' : walk (0, .outside) p' = some (0, .outside)) (h : p ++ '(' :: s = p' ++ '(' :: s') :
    p = p' ∧ s = s' := by
  -- what goes on behind one of the two parentheses has the call open
  have hopen : ∀ {p t : List Char}, walk (0, .outside) p = some (0, .outside) →
      walk (0, .outside) (p ++ '(' :: t) ≠ some (0, .outside) := by
    intro p t hp hw
    rw [walk_append, hp, Option.bind_some, walk_cons, step_open, Option.bind_some] at hw
    exact Nat.lt_irrefl 0 (walk_pos Nat.one_pos hw)
  rcases List.append_eq_append_iff.mp h with ⟨t, rfl, ht⟩ | ⟨t, rfl, ht⟩
  · cases t with
    | nil => exact ⟨(List.append_nil p).symm, (List.cons.inj ht).2⟩
    | cons c t =>
      obtain rfl := (List.cons.inj ht).1
      exact absurd hp' (hopen hp)
  · cases t with
    | nil => exact ⟨List.append_nil p', (List.cons.inj ht).2.symm⟩
    | cons c t =>
      obtain rfl := (List.cons.inj ht).1
      exact absurd hp (hopen hp')

theorem balanced_walk {s : List Char} (h : Balanced s) (d : Nat) :
    walk (d + 1, .outside) s = some (d + 1, .outside) := by
  induction h generalizing d with
  | nil => rfl
  | lexeme hl ho hc _ ih => rw [walk_append, hl.walk ho hc, Option.bind_some, ih]
  | group _ _ ihb ihs =>
    rw [List.cons_append, walk_cons, step_open, Option.bind_some, walk_append, ihb,
      Option.bind_some, walk_cons, step_close, Option.bind_some, ihs]

/-- **The grammar's way into a call**: the call is open behind the parenthesis and what it holds. -/
theorem walk_call {p b : List Char} (hp : Plain p) (hb : Balanced b) :
    walk (0, .outside) (p ++ '(' :: b) = some (1, .outside) := by
  rw [walk_append, plain_walk hp, Option.bind_some, walk_cons, step_open, Option.bind_some,
    balanced_walk hb]

/-- A text that closes `n` parentheses more than it opens, and is balanced between them. -/
def Unwinds : Nat → List Char → Prop
  | 0, s => Balanced s
  | n + 1, s => ∃ b t, s = b ++ ')' :: t ∧ Balanced b ∧ Unwinds n t

/-- What keeps a text balanced in front of it keeps it unwinding. -/
theorem unwinds_append {x : List Char} (hx : ∀ b, Balanced b → Balanced (x ++ b)) {n : Nat}
    {s : List Char} (h : Unwinds n s) : Unwinds n (x ++ s) := by
  cases n with
  | zero => exact hx s h
  | succ n =>
    obtain ⟨b, t, rfl, hb, ht⟩ := h
    exact ⟨x ++ b, t, (List.append_assoc x b _).symm, hx b hb, ht⟩

theorem unwinds_of_walk {n : Nat} {s : List Char}
    (h : walk (n + 1, .outside) s = some (1, .outside)) : Unwinds n s := by
  -- the induction needs a statement at every depth, and says nothing at depth zero
  suffices hs : ∀ m, n + 1 = m + 1 → Unwinds m s from hs n rfl
  refine walk_induction (P := fun d s => ∀ m, d = m + 1 → Unwinds m s) ?_ ?_ ?_ ?_ h
  · intro m hm
    obtain rfl : m = 0 := by omega
    exact .nil
  · rintro d s - ih m rfl
    obtain ⟨b, t, rfl, hb, ht⟩ := ih (m + 1) rfl
    have hx := unwinds_append (x := '(' :: b ++ [')']) (fun c hc => by
      rw [List.append_assoc, List.singleton_append]
      exact .group hb hc) ht
    rwa [List.append_assoc, List.singleton_append] at hx
  · intro d s ih m hm
    obtain rfl : m = d + 1 := by omega
    exact ⟨[], s, rfl, .nil, ih d rfl⟩
  · intro d l s hl ho hc ih m hm
    exact unwinds_append (fun b hb => .lexeme hl ho hc hb) (ih m hm)

/-- **A walk that comes back to the call's own depth is balanced.** -/
theorem balanced_of_walk {s : List Char} (h : walk (1, .outside) s = some (1, .outside)) :
    Balanced s :=
  unwinds_of_walk h

/-- **A walk into a call passes a plain text and the parenthesis that opens the call.** -/
theorem exists_open {e : Nat} {s : List Char}
    (h : walk (0, .outside) s = some (e + 1, .outside)) :
    ∃ p t, s = p ++ '(' :: t ∧ Plain p ∧ walk (1, .outside) t = some (e + 1, .outside) := by
  refine walk_induction (P := fun d s => d = 0 → ∃ p t, s = p ++ '(' :: t ∧ Plain p ∧
    walk (1, .outside) t = some (e + 1, .outside)) ?_ ?_ ?_ ?_ h rfl
  · intro he
    omega
  · rintro d s hs - rfl
    exact ⟨[], s, rfl, .nil, hs⟩
  · intro d s _ hd
    omega
  · intro d l s hl ho hc ih hd
    obtain ⟨p, t, rfl, hp, ht⟩ := ih hd
    exact ⟨l ++ p, t, (List.append_assoc l p _).symm, .lexeme hl ho hc hp, ht⟩

end DartModels.Declaration
