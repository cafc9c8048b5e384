import DartModels.Field.Parse
import DartModels.Proofs.Declaration.Walk
import DartModels.Proofs.Field.Callee

/-!
# Blanks in a call

The callee of a call has no quotes, so its arguments are read from outside of literals. Their first
one either ends at a comma in what is already read, or goes on in what follows. Blanks that stand
outside of literals change nothing of it but themselves; so unless they stand strictly inside of it
(`InsideFirst`), they do not matter once it is trimmed.

Results:
* `not_opens_of_callee?`: no quotes stand in a callee;
* `firstArgumentFrom_cases`: how the first argument goes on behind a text;
* `trim_firstArgument_blanks`: blanks that are not strictly inside the first argument;
* `ofText_congr`: what a text is read as depends on its name and its call.
-/

namespace DartModels

open Text

namespace Call

/-! ## The callee -/

theorem not_opens_of_continuesWord {c : Char} (h : Name.continuesWord c = true) :
    Quoting.opens c = false := by
  cases ho : Quoting.opens c with
  | false => rfl
  | true =>
    rw [Quoting.opens, Bool.or_eq_true, beq_iff_eq, beq_iff_eq] at ho
    rcases ho with rfl | rfl <;> exact absurd h (by decide)

/-- **No quotes stand in a callee.** -/
theorem not_opens_of_callee? {path token : List Char} (h : callee? path = some token) :
    ∀ c ∈ path, Quoting.opens c = false := by
  obtain ⟨before, words, behind, hbefore, hbehind, rfl, hwords⟩ := callee?_eq_some_iff.mp h
  intro c hc
  rcases List.mem_append.mp hc with hc | hc
  · rcases List.mem_append.mp hc with hc | hc
    · exact Quoting.not_opens_of_isBlank (hbefore c hc)
    · rcases hwords.mem_cases c hc with hc | hc | rfl
      · exact not_opens_of_continuesWord hc
      · exact Quoting.not_opens_of_isBlank hc
      · decide
  · exact Quoting.not_opens_of_isBlank (hbehind c hc)

theorem after_of_callee? {path token : List Char} (h : callee? (trimStart path) = some token) :
    Quoting.outside.after path = .outside := by
  obtain ⟨b, hb, hs⟩ := trimStart_split path
  rw [hs, Quoting.after_append,
    Quoting.after_of_not_opens fun c hc => Quoting.not_opens_of_isBlank (hb c hc),
    Quoting.after_of_not_opens (not_opens_of_callee? h)]

/-! ## The first argument -/

/-- **The first argument ends at a comma in a text, or it goes on behind the text.** -/
theorem firstArgumentFrom_cases (depth : Nat) (q : Quoting) (s : List Char) :
    (∃ a b, s = a ++ ',' :: b ∧ ∀ t, firstArgumentFrom depth q (a ++ ',' :: t) = a) ∨
      ∃ e, ∀ t, firstArgumentFrom depth q (s ++ t) = s ++ firstArgumentFrom e (q.after s) t := by
  induction s generalizing depth q with
  | nil => exact Or.inr ⟨depth, fun t => rfl⟩
  | cons c s ih =>
    have hcons : (∃ a b, c :: s = a ++ ',' :: b ∧
          ∀ t, firstArgumentFrom depth q (a ++ ',' :: t) = a) ∨
        ∃ e, ∀ t, firstArgumentFrom depth q (c :: t) = c :: firstArgumentFrom e (q.next c) t := by
      cases q with
      | outside =>
        by_cases hc : c = ',' ∧ depth = 0
        · refine Or.inl ⟨[], s, by rw [hc.1]; rfl, fun t => ?_⟩
          simp [firstArgumentFrom, hc.2]
        · refine Or.inr ⟨nextDepth depth c, fun t => ?_⟩
          rw [firstArgumentFrom, if_neg hc]
      | inside p => exact Or.inr ⟨depth, fun t => rfl⟩
      | escaped p => exact Or.inr ⟨depth, fun t => rfl⟩
    rcases hcons with h | ⟨d, hd⟩
    · exact Or.inl h
    · rcases ih d (q.next c) with ⟨a, b, rfl, ha⟩ | ⟨e, he⟩
      · refine Or.inl ⟨c :: a, b, rfl, fun t => ?_⟩
        rw [List.cons_append, hd, ha]
      · refine Or.inr ⟨e, fun t => ?_⟩
        rw [List.cons_append, hd, he]
        rfl

theorem nextDepth_of_isBlank {c : Char} (hc : isBlank c = true) (depth : Nat) :
    nextDepth depth c = depth := by
  have hne : ∀ d, isBlank d = false → c ≠ d := by
    rintro d hd rfl
    rw [hc] at hd
    cases hd
  have hopens : opensBracket c = false := by
    simp [opensBracket, hne '(' (by decide), hne '[' (by decide), hne '\x7b' (by decide)]
  have hcloses : closesBracket c = false := by
    simp [closesBracket, hne ')' (by decide), hne ']' (by decide), hne '\x7d' (by decide)]
  simp [nextDepth, hopens, hcloses]

theorem firstArgumentFrom_blank_append {b : List Char} (hb : AllBlank b) (depth : Nat)
    (s : List Char) :
    firstArgumentFrom depth .outside (b ++ s) = b ++ firstArgumentFrom depth .outside s := by
  induction b with
  | nil => rfl
  | cons c b ih =>
    have hc := hb c List.mem_cons_self
    have hcomma : c ≠ ',' := by
      rintro rfl
      exact absurd hc (by decide)
    rw [List.cons_append, firstArgumentFrom, if_neg fun h => hcomma h.1, nextDepth_of_isBlank hc,
      Quoting.next_outside_of_not_opens (Quoting.not_opens_of_isBlank hc),
      ih fun d hd => hb d (List.mem_cons_of_mem c hd)]
    rfl

/-- The place between two parts of the arguments is strictly inside of the first one, blanks at the
ends of which do not count. -/
def InsideFirst (before behind : List Char) : Prop :=
  ∃ blanks left right, AllBlank blanks ∧ before = blanks ++ left ∧ left ≠ [] ∧ right ≠ [] ∧
    trim (firstArgument (before ++ behind)) = left ++ right

/-- Behind a part that is not blank, where the first argument goes on with one that is not either,
one is inside of it. -/
theorem insideFirst_of_firstArgument {before behind rest : List Char}
    (hf : firstArgument (before ++ behind) = before ++ rest) (hbefore : ¬ AllBlank before)
    (hrest : ¬ AllBlank rest) : InsideFirst before behind := by
  obtain ⟨blanks, hblanks, hs⟩ := trimStart_split before
  refine ⟨blanks, trimStart before, trimEnd rest, hblanks, hs, trimStart_ne_nil hbefore,
    trimEnd_ne_nil hrest, ?_⟩
  rw [hf, trim, trimStart_append_of_not_allBlank hbefore, trimEnd_append_of_not_allBlank hrest]

/-- **Blanks that are not strictly inside the first argument** may be any others. -/
theorem trim_firstArgument_blanks {before behind : List Char}
    (hq : Quoting.outside.after before = .outside) (h : ¬ InsideFirst before behind)
    {blanks : List Char} (hblanks : AllBlank blanks) :
    trim (firstArgument (trimEnd before ++ (blanks ++ trimStart behind))) =
      trim (firstArgument (before ++ behind)) := by
  obtain ⟨b, hb, hbefore⟩ := trimEnd_split before
  obtain ⟨b', hb', hbehind⟩ := trimStart_split behind
  have hbb : AllBlank (b ++ b') := AllBlank.append hb hb'
  have hsplit : before ++ behind = trimEnd before ++ ((b ++ b') ++ trimStart behind) := by
    conv => lhs; rw [hbefore, hbehind]
    simp only [List.append_assoc]
  rcases firstArgumentFrom_cases 0 .outside (trimEnd before) with ⟨a, s, ha, hf⟩ | ⟨e, hf⟩
  · rw [hsplit, ha, List.append_assoc, List.append_assoc, List.cons_append, List.cons_append,
      firstArgument, firstArgument, hf, hf]
  · have hout : Quoting.outside.after (trimEnd before) = .outside := by
      rw [hbefore, Quoting.after_append] at hq
      exact (Quoting.after_eq_outside_of_allBlank (Quoting.proper_outside.after _) hb).mp hq
    rw [hout] at hf
    -- what is left of the first argument behind the blanks
    generalize hrest : firstArgumentFrom e .outside (trimStart behind) = rest at hf
    have hold : firstArgument (before ++ behind) = trimEnd before ++ ((b ++ b') ++ rest) := by
      rw [hsplit, firstArgument, hf, firstArgumentFrom_blank_append hbb, hrest]
    have hnew : firstArgument (trimEnd before ++ (blanks ++ trimStart behind)) =
        trimEnd before ++ (blanks ++ rest) := by
      rw [firstArgument, hf, firstArgumentFrom_blank_append hblanks, hrest]
    rw [hold, hnew]
    by_cases hempty : AllBlank (trimEnd before)
    · rw [trim_blank_append hempty, trim_blank_append hblanks, trim_blank_append hempty,
        trim_blank_append hbb]
    by_cases hend : AllBlank rest
    · rw [trim_append_blank (hblanks.append hend), trim_append_blank (hbb.append hend)]
    have hfirst : firstArgument (before ++ behind) = before ++ (b' ++ rest) := by
      rw [hold]
      conv => rhs; rw [hbefore]
      simp only [List.append_assoc]
    refine absurd (insideFirst_of_firstArgument hfirst (fun hall => ?_) fun hall => ?_) h
    · rw [hbefore] at hall
      exact hempty hall.of_append_left
    · exact hend fun c hc => hall c (List.mem_append_right b' hc)

/-- What a call refers to depends on its token, and on its first argument if it is a reference. -/
theorem referenced_congr {token a b : List Char}
    (h : String.ofList token = DartType.referenceToken →
      trim (firstArgument a) = trim (firstArgument b)) (field : String) :
    Call.referenced ⟨token, a⟩ field = Call.referenced ⟨token, b⟩ field := by
  unfold Call.referenced
  by_cases ht : String.ofList token = DartType.referenceToken
  · rw [if_pos ht, if_pos ht, h ht]
  · rw [if_neg ht, if_neg ht]

end Call

namespace Field

theorem ofCall_congr {token a b : List Char}
    (h : String.ofList token = DartType.referenceToken →
      trim (Call.firstArgument a) = trim (Call.firstArgument b))
    (name member : List Char) (line : Nat) :
    ofCall name member ⟨token, a⟩ line = ofCall name member ⟨token, b⟩ line := by
  simp only [ofCall, Call.referenced_congr h]

/-- **What a text is read as depends on the name before its first equals sign and on the call behind
it.** -/
theorem ofText_congr {s t : String} {left right right' : List Char}
    (hs : isVoid s.toList = false) (ht : isVoid t.toList = false)
    (hcut : cut? '=' (trim s.toList) = some (left, right))
    (hcut' : cut? '=' (trim t.toList) = some (left, right')) {line : Nat}
    (hcall : ∀ name member, ofCall name member ((Call.ofText? (trim right)).getD ⟨[], []⟩) line =
      ofCall name member ((Call.ofText? (trim right')).getD ⟨[], []⟩) line) (camelCase : Bool) :
    ofText s line camelCase = ofText t line camelCase := by
  simp only [ofText, hs, ht, hcut, hcut', hcall]

end Field

end DartModels
