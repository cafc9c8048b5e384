import DartModels.Declaration.Scan
import DartModels.Proofs.Text.Trimming

/-!
# Walks through a call

A walk goes through a text as a scan does and keeps where it stands: how many parentheses are open,
and in which literal. It cannot pass what ends a scan, which is a comment, a parenthesis that closes
the call, or one that closes nothing. Walks compose, so a call may be walked line by line.

Results:
* `scanFrom_append`: a scan continues a walk;
* `scan_cases`: a scan walks to one of six endings (`Ending`), and this is all that it can do;
* `scan_eq_closed_iff`, `scan_eq_pending_iff`: what a scan that succeeds has walked through;
* `walk_trim`: blanks at the ends do not matter to a walk that ends in no literal.
-/

namespace DartModels

/-! ## Literals -/

namespace Quoting

/-- A literal is opened by a quote, so that is what closes it. -/
def Proper : Quoting → Prop
  | outside => True
  | inside q => opens q = true
  | escaped q => opens q = true

theorem proper_outside : outside.Proper := trivial

theorem next_outside (c : Char) : outside.next c = if opens c then inside c else outside := rfl

theorem next_inside (q c : Char) :
    (inside q).next c = if c = '\\' then escaped q else if c = q then outside else inside q := rfl

theorem next_escaped (q c : Char) : (escaped q).next c = inside q := rfl

theorem Proper.next {q : Quoting} (h : q.Proper) (c : Char) : (q.next c).Proper := by
  cases q with
  | outside =>
    rw [next_outside]
    split
    · assumption
    · trivial
  | inside q =>
    rw [next_inside]
    split
    · exact h
    · split
      · trivial
      · exact h
  | escaped q => exact h

theorem Proper.after {q : Quoting} (h : q.Proper) (s : List Char) : (q.after s).Proper := by
  induction s generalizing q with
  | nil => exact h
  | cons c s ih => exact ih (h.next c)

theorem not_opens_of_isBlank {c : Char} (h : Text.isBlank c = true) : opens c = false := by
  cases ho : opens c with
  | false => rfl
  | true =>
    rw [opens, Bool.or_eq_true, beq_iff_eq, beq_iff_eq] at ho
    rcases ho with rfl | rfl <;> exact absurd h (by decide)

/-- What has no quotes leads out of no literal and into none. -/
theorem after_of_not_opens {s : List Char} (h : ∀ c ∈ s, opens c = false) :
    outside.after s = outside := by
  induction s with
  | nil => rfl
  | cons c s ih =>
    rw [after_cons, next_outside_of_not_opens (h c List.mem_cons_self)]
    exact ih fun d hd => h d (List.mem_cons_of_mem c hd)

/-- A blank neither opens nor closes a literal. -/
theorem next_eq_outside_of_isBlank {q : Quoting} (hq : q.Proper) {c : Char}
    (hc : Text.isBlank c = true) : q.next c = outside ↔ q = outside := by
  have ho := not_opens_of_isBlank hc
  cases q with
  | outside => simp [next_outside, ho]
  | inside q =>
    have hne : c ≠ q := by
      rintro rfl
      rw [Proper, ho] at hq
      exact absurd hq Bool.false_ne_true
    rw [next_inside, if_neg hne]
    split <;> simp
  | escaped q => simp [next_escaped]

theorem after_eq_outside_of_allBlank {q : Quoting} (hq : q.Proper) {b : List Char}
    (hb : Text.AllBlank b) : q.after b = outside ↔ q = outside := by
  induction b generalizing q with
  | nil => rfl
  | cons c b ih =>
    rw [after_cons, ih (hq.next c) fun d hd => hb d (List.mem_cons_of_mem c hd)]
    exact next_eq_outside_of_isBlank hq (hb c List.mem_cons_self)

end Quoting

namespace Declaration

open Text

/-! ## Steps and walks -/

/-- One character. -/
def step : Nat × Quoting → Char → Option (Nat × Quoting)
  | (d, .outside), c =>
    if c = '#' then none
    else if c = '(' then some (d + 1, .outside)
    else if c = ')' then
      match d with
      | e + 2 => some (e + 1, .outside)
      | _ => none
    else some (d, Quoting.outside.next c)
  | (d, q), c => some (d, q.next c)

/-- Where a walk through a text ends, unless it comes to something that it cannot pass. -/
def walk (p : Nat × Quoting) (s : List Char) : Option (Nat × Quoting) :=
  s.foldlM step p

@[simp] theorem walk_nil (p : Nat × Quoting) : walk p [] = some p := rfl

theorem walk_cons (p : Nat × Quoting) (c : Char) (s : List Char) :
    walk p (c :: s) = (step p c).bind (walk · s) := rfl

/-- **Walks compose.** -/
theorem walk_append (p : Nat × Quoting) (a b : List Char) :
    walk p (a ++ b) = (walk p a).bind (walk · b) :=
  List.foldlM_append

theorem walk_append_eq_some_iff {p q : Nat × Quoting} {a b : List Char} :
    walk p (a ++ b) = some q ↔ ∃ r, walk p a = some r ∧ walk r b = some q := by
  rw [walk_append, Option.bind_eq_some_iff]

theorem walk_cons_eq_some_iff {p q : Nat × Quoting} {c : Char} {s : List Char} :
    walk p (c :: s) = some q ↔ ∃ r, step p c = some r ∧ walk r s = some q := by
  rw [walk_cons, Option.bind_eq_some_iff]

theorem step_of_ne_outside {d : Nat} {q : Quoting} (hq : q ≠ .outside) (c : Char) :
    step (d, q) c = some (d, q.next c) := by
  cases q with
  | outside => exact absurd rfl hq
  | inside q => rfl
  | escaped q => rfl

theorem step_open (d : Nat) : step (d, .outside) '(' = some (d + 1, .outside) := rfl

theorem step_close (d : Nat) : step (d + 2, .outside) ')' = some (d + 1, .outside) := rfl

/-- A character without a meaning of its own. -/
theorem step_plain {c : Char} (hh : c ≠ '#') (ho : c ≠ '(') (hc : c ≠ ')') (d : Nat) :
    step (d, .outside) c = some (d, Quoting.outside.next c) := by
  simp [step, hh, ho, hc]

/-- What a walk cannot pass. -/
theorem step_eq_none_iff {d : Nat} {q : Quoting} {c : Char} :
    step (d, q) c = none ↔ q = .outside ∧ (c = '#' ∨ c = ')' ∧ d ≤ 1) := by
  by_cases hq : q = .outside
  · subst hq
    by_cases hh : c = '#'
    · simp [step, hh]
    by_cases ho : c = '('
    · simp [step, ho]
    by_cases hc : c = ')'
    · subst hc
      rcases d with _ | _ | d <;> simp [step]
    · simp [step, hh, ho, hc]
  · rw [step_of_ne_outside hq]
    simp [hq]

/-- The three kinds of character that a walk passes outside of literals. -/
theorem step_outside_cases {d : Nat} {c : Char} {p : Nat × Quoting}
    (h : step (d, .outside) c = some p) :
    (c = '(' ∧ p = (d + 1, .outside)) ∨
    (c = ')' ∧ ∃ e, d = e + 2 ∧ p = (e + 1, .outside)) ∨
    (c ≠ '#' ∧ c ≠ '(' ∧ c ≠ ')' ∧ p = (d, Quoting.outside.next c)) := by
  by_cases hh : c = '#'
  · simp [step, hh] at h
  by_cases ho : c = '('
  · subst ho
    exact Or.inl ⟨rfl, (Option.some.inj h).symm⟩
  by_cases hc : c = ')'
  · subst hc
    rcases d with _ | _ | e
    · simp [step] at h
    · simp [step] at h
    · exact Or.inr (Or.inl ⟨rfl, e, rfl, (Option.some.inj h).symm⟩)
  · rw [step_plain hh ho hc] at h
    exact Or.inr (Or.inr ⟨hh, ho, hc, (Option.some.inj h).symm⟩)

/-- A step reads literals as `Quoting.next` does. -/
theorem step_quoting {d e : Nat} {q r : Quoting} {c : Char} (h : step (d, q) c = some (e, r)) :
    r = q.next c := by
  by_cases hq : q = .outside
  · subst hq
    rcases step_outside_cases h with ⟨rfl, hp⟩ | ⟨rfl, _, _, hp⟩ | ⟨_, _, _, hp⟩
    · exact congrArg Prod.snd hp
    · exact congrArg Prod.snd hp
    · exact congrArg Prod.snd hp
  · rw [step_of_ne_outside hq] at h
    exact (congrArg Prod.snd (Option.some.inj h)).symm

/-- A step reads literals only, opens a parenthesis or closes one. -/
theorem step_depth {d e : Nat} {q r : Quoting} {c : Char} (h : step (d, q) c = some (e, r)) :
    e = d ∨ e = d + 1 ∨ (2 ≤ d ∧ e = d - 1) := by
  by_cases hq : q = .outside
  · subst hq
    rcases step_outside_cases h with ⟨_, hp⟩ | ⟨_, k, rfl, hp⟩ | ⟨_, _, _, hp⟩
    · exact Or.inr (Or.inl (congrArg Prod.fst hp))
    · exact Or.inr (Or.inr ⟨by omega, congrArg Prod.fst hp⟩)
    · exact Or.inl (congrArg Prod.fst hp)
  · rw [step_of_ne_outside hq] at h
    exact Or.inl (congrArg Prod.fst (Option.some.inj h)).symm

theorem walk_quoting {d e : Nat} {q r : Quoting} {s : List Char}
    (h : walk (d, q) s = some (e, r)) : r = q.after s := by
  induction s generalizing d q with
  | nil => exact (congrArg Prod.snd (Option.some.inj h)).symm
  | cons c s ih =>
    obtain ⟨⟨m, p⟩, hc, hs⟩ := walk_cons_eq_some_iff.mp h
    rw [ih hs, step_quoting hc, Quoting.after_cons]

/-- A call that is open stays open along a walk. -/
theorem walk_pos {d e : Nat} {q r : Quoting} {s : List Char} (hd : 0 < d)
    (h : walk (d, q) s = some (e, r)) : 0 < e := by
  induction s generalizing d q with
  | nil =>
    obtain rfl := congrArg Prod.fst (Option.some.inj h)
    exact hd
  | cons c s ih =>
    obtain ⟨⟨m, p⟩, hc, hs⟩ := walk_cons_eq_some_iff.mp h
    refine ih ?_ hs
    have := step_depth hc
    omega

/-! ## Blanks -/

theorem step_of_isBlank {c : Char} (hc : isBlank c = true) (d : Nat) :
    step (d, .outside) c = some (d, .outside) := by
  have hne : c ≠ '#' ∧ c ≠ '(' ∧ c ≠ ')' := by
    refine ⟨?_, ?_, ?_⟩ <;> rintro rfl <;> exact absurd hc (by decide)
  rw [step_plain hne.1 hne.2.1 hne.2.2,
    Quoting.next_outside_of_not_opens (Quoting.not_opens_of_isBlank hc)]

theorem walk_allBlank {b : List Char} (hb : AllBlank b) (d : Nat) :
    walk (d, .outside) b = some (d, .outside) := by
  induction b with
  | nil => rfl
  | cons c b ih =>
    rw [walk_cons, step_of_isBlank (hb c List.mem_cons_self)]
    exact ih fun e he => hb e (List.mem_cons_of_mem c he)

theorem walk_blank_append {b : List Char} (hb : AllBlank b) (d : Nat) (s : List Char) :
    walk (d, .outside) (b ++ s) = walk (d, .outside) s := by
  rw [walk_append, walk_allBlank hb]
  rfl

/-- Blanks behind a walk that ends in no literal stand in no literal. -/
theorem walk_of_append_blank {d e : Nat} {s b : List Char} (hb : AllBlank b)
    (h : walk (d, .outside) (s ++ b) = some (e, .outside)) :
    walk (d, .outside) s = some (e, .outside) := by
  obtain ⟨⟨m, q⟩, hs, hw⟩ := walk_append_eq_some_iff.mp h
  have hq : q.Proper := by
    rw [walk_quoting hs]
    exact Quoting.proper_outside.after s
  have ho : q = .outside :=
    (Quoting.after_eq_outside_of_allBlank hq hb).mp (walk_quoting hw).symm
  subst ho
  rw [walk_allBlank hb, Option.some.injEq, Prod.mk.injEq] at hw
  rw [hs, hw.1]

/-- **Blanks at the ends do not matter to a walk that ends in no literal.** -/
theorem walk_trim {d e : Nat} {s : List Char}
    (h : walk (d, .outside) s = some (e, .outside)) :
    walk (d, .outside) (trim s) = some (e, .outside) := by
  obtain ⟨a, b, ha, hb, hs⟩ := trim_split s
  rw [hs] at h
  have h' := walk_of_append_blank hb h
  rwa [walk_blank_append ha] at h'

theorem walk_trimEnd {d e : Nat} {s : List Char}
    (h : walk (d, .outside) s = some (e, .outside)) :
    walk (d, .outside) (trimEnd s) = some (e, .outside) := by
  obtain ⟨b, hb, hs⟩ := trimEnd_split s
  rw [hs] at h
  exact walk_of_append_blank hb h

/-! ## Scans -/

namespace Scanned

/-- A stretch of text in front. -/
def prepend (a : List Char) : Scanned → Scanned
  | closed k => closed (a ++ k)
  | pending d k => pending d (a ++ k)

theorem prepend_nil (r : Scanned) : r.prepend [] = r := by
  cases r <;> rfl

theorem cons_prepend (c : Char) (a : List Char) (r : Scanned) :
    (r.prepend a).cons c = r.prepend (c :: a) := by
  cases r <;> rfl

end Scanned

theorem scanFrom_cons {d e : Nat} {q r : Quoting} {c : Char} (h : step (d, q) c = some (e, r))
    (s : List Char) : scanFrom d q (c :: s) = (scanFrom e r s).map (.cons c) := by
  by_cases hq : q = .outside
  · subst hq
    rcases step_outside_cases h with ⟨rfl, hp⟩ | ⟨rfl, k, rfl, hp⟩ | ⟨hh, ho, hc, hp⟩
    · obtain ⟨rfl, rfl⟩ := Prod.mk.inj hp
      simp [scanFrom]
    · obtain ⟨rfl, rfl⟩ := Prod.mk.inj hp
      simp [scanFrom]
    · obtain ⟨rfl, rfl⟩ := Prod.mk.inj hp
      simp [scanFrom, hh, ho, hc]
  · rw [step_of_ne_outside hq] at h
    obtain ⟨rfl, rfl⟩ := Prod.mk.inj (Option.some.inj h)
    cases q with
    | outside => exact absurd rfl hq
    | inside q => rfl
    | escaped q => rfl

/-- **A scan continues a walk.** -/
theorem scanFrom_append {d e : Nat} {q r : Quoting} {a : List Char}
    (h : walk (d, q) a = some (e, r)) (s : List Char) :
    scanFrom d q (a ++ s) = (scanFrom e r s).map (.prepend a) := by
  induction a generalizing d q with
  | nil =>
    obtain ⟨rfl, rfl⟩ := Prod.mk.inj (Option.some.inj h)
    cases hs : scanFrom d q s with
    | error f => simp [hs, Except.map]
    | ok t => simp [hs, Except.map, Scanned.prepend_nil]
  | cons c a ih =>
    obtain ⟨⟨m, p⟩, hc, ha⟩ := walk_cons_eq_some_iff.mp h
    rw [List.cons_append, scanFrom_cons hc, ih ha]
    cases scanFrom e r s with
    | error f => rfl
    | ok t => exact congrArg Except.ok (Scanned.cons_prepend c a t)

/-- Where a scan ends, and what it makes of the rest of the line. -/
inductive Ending : Nat × Quoting → List Char → Except Fault Scanned → Prop
  | endOfLine (d : Nat) : Ending (d, .outside) [] (.ok (.pending d []))
  | inLiteral (d : Nat) {q : Quoting} (hq : q ≠ .outside) :
      Ending (d, q) [] (.error .unterminatedLiteral)
  | comment (d : Nat) (u : List Char) : Ending (d, .outside) ('#' :: u) (.ok (.pending d []))
  | unmatched (u : List Char) : Ending (0, .outside) (')' :: u) (.error .unmatchedParenthesis)
  | closed {u : List Char} (hu : isVoid u = true) :
      Ending (1, .outside) (')' :: u) (.ok (.closed [')']))
  | textAfter {u : List Char} (hu : isVoid u = false) :
      Ending (1, .outside) (')' :: u) (.error (.textAfterCall (String.ofList (trim u))))

theorem Ending.scanFrom_eq {p : Nat × Quoting} {t : List Char} {o : Except Fault Scanned}
    (h : Ending p t o) : scanFrom p.1 p.2 t = o := by
  cases h with
  | endOfLine d => rfl
  | @inLiteral d q hq =>
    cases q with
    | outside => exact absurd rfl hq
    | inside q => rfl
    | escaped q => rfl
  | comment d u => rfl
  | unmatched u => rfl
  | closed hu => simp [scanFrom, hu]
  | textAfter hu => simp [scanFrom, hu]

/-- **A walk goes on to where a scan ends.** -/
theorem exists_ending (p : Nat × Quoting) (s : List Char) :
    ∃ a q t o, s = a ++ t ∧ walk p a = some q ∧ Ending q t o := by
  induction s generalizing p with
  | nil =>
    obtain ⟨d, q⟩ := p
    by_cases hq : q = .outside
    · subst hq
      exact ⟨[], _, [], _, rfl, rfl, .endOfLine d⟩
    · exact ⟨[], _, [], _, rfl, rfl, .inLiteral d hq⟩
  | cons c s ih =>
    obtain ⟨d, q⟩ := p
    cases hc : step (d, q) c with
    | some m =>
      obtain ⟨a, r, t, o, rfl, ha, ht⟩ := ih m
      exact ⟨c :: a, r, t, o, rfl, walk_cons_eq_some_iff.mpr ⟨m, hc, ha⟩, ht⟩
    | none =>
      obtain ⟨rfl, rfl | ⟨rfl, hd⟩⟩ := step_eq_none_iff.mp hc
      · exact ⟨[], _, _, _, rfl, rfl, .comment d s⟩
      · obtain rfl | rfl : d = 0 ∨ d = 1 := by omega
        · exact ⟨[], _, _, _, rfl, rfl, .unmatched s⟩
        · cases hs : isVoid s with
          | true => exact ⟨[], _, _, _, rfl, rfl, .closed hs⟩
          | false => exact ⟨[], _, _, _, rfl, rfl, .textAfter hs⟩

/-- **All that a scan can do**: it walks to an ending, and keeps what it has walked through. -/
theorem scan_cases (d : Nat) (line : List Char) :
    ∃ a p t o, line = a ++ t ∧ walk (d, .outside) a = some p ∧ Ending p t o ∧
      scan d line = o.map (.prepend a) := by
  obtain ⟨a, ⟨e, q⟩, t, o, rfl, ha, ht⟩ := exists_ending (d, .outside) line
  exact ⟨a, (e, q), t, o, rfl, ha, ht, by rw [scan, scanFrom_append ha, ht.scanFrom_eq]⟩

theorem scan_eq_of_walk {d : Nat} {a t : List Char} {p : Nat × Quoting} {o : Except Fault Scanned}
    (ha : walk (d, .outside) a = some p) (ht : Ending p t o) :
    scan d (a ++ t) = o.map (.prepend a) := by
  rw [scan, scanFrom_append ha, ht.scanFrom_eq]

/-- **A scan comes to the end of the call**: one parenthesis is open where the one that closes it
stands, and what follows is void. -/
theorem scan_eq_closed_iff {d : Nat} {line kept : List Char} :
    scan d line = .ok (.closed kept) ↔ ∃ a t, kept = a ++ [')'] ∧ line = a ++ ')' :: t ∧
      walk (d, .outside) a = some (1, .outside) ∧ isVoid t = true := by
  constructor
  · intro h
    obtain ⟨a, p, t, o, rfl, ha, ht, hs⟩ := scan_cases d line
    rw [h] at hs
    cases ht with
    | closed hu =>
      rw [Except.map, Except.ok.injEq, Scanned.prepend, Scanned.closed.injEq] at hs
      exact ⟨a, _, hs, rfl, ha, hu⟩
    | endOfLine | inLiteral | comment | unmatched | textAfter =>
      simp [Except.map, Scanned.prepend] at hs
  · rintro ⟨a, t, rfl, rfl, ha, ht⟩
    exact scan_eq_of_walk ha (.closed ht)

/-- **A scan leaves the call open**: it comes to the end of the line, or to a comment. -/
theorem scan_eq_pending_iff {d e : Nat} {line kept : List Char} :
    scan d line = .ok (.pending e kept) ↔ walk (d, .outside) kept = some (e, .outside) ∧
      ∃ t, line = kept ++ t ∧ (t = [] ∨ t.head? = some '#') := by
  constructor
  · intro h
    obtain ⟨a, p, t, o, rfl, ha, ht, hs⟩ := scan_cases d line
    rw [h] at hs
    cases ht with
    | endOfLine m =>
      rw [Except.map, Except.ok.injEq, Scanned.prepend, Scanned.pending.injEq,
        List.append_nil] at hs
      obtain ⟨rfl, rfl⟩ := hs
      exact ⟨ha, [], rfl, Or.inl rfl⟩
    | comment m u =>
      rw [Except.map, Except.ok.injEq, Scanned.prepend, Scanned.pending.injEq,
        List.append_nil] at hs
      obtain ⟨rfl, rfl⟩ := hs
      exact ⟨ha, '#' :: u, rfl, Or.inr rfl⟩
    | inLiteral | unmatched | closed | textAfter =>
      simp [Except.map, Scanned.prepend] at hs
  · rintro ⟨ha, t, rfl, ht⟩
    cases t with
    | nil => simpa [Except.map, Scanned.prepend] using scan_eq_of_walk ha (.endOfLine e)
    | cons c u =>
      obtain rfl : c = '#' := by simpa using ht
      simpa [Except.map, Scanned.prepend] using scan_eq_of_walk ha (.comment e u)

end Declaration

end DartModels
