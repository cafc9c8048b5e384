import DartModels.Proofs.Declaration.Reading
import DartModels.Proofs.Declaration.Walk

/-!
# What a reader of declarations looks at

A reader passes over void lines, and of any other line it looks at the trimmed line only: blanks at
its ends change neither what is finished or left open nor an error. So the numbered lines that are
not void, trimmed, are the content of a text (`content`).

Results:
* `scan_append_blank`: blanks behind a line are kept or change nothing;
* `readLine_trim`: a line is read like the trimmed line;
* `readLines_content`: lines are read like their content.
-/

namespace DartModels.Declaration

open Text

/-- Numbered lines that are not void, trimmed. -/
def content (ls : List (Nat × List Char)) : List (Nat × List Char) :=
  (ls.filter fun p => !isVoid p.2).map fun p => (p.1, trim p.2)

theorem content_append (ls ms : List (Nat × List Char)) :
    content (ls ++ ms) = content ls ++ content ms := by
  rw [content, List.filter_append, List.map_append, content, content]

theorem content_cons_of_void {n : Nat} {line : List Char} (h : isVoid line = true)
    (ls : List (Nat × List Char)) : content ((n, line) :: ls) = content ls := by
  simp [content, h]

theorem content_cons_of_not_void {n : Nat} {line : List Char} (h : isVoid line = false)
    (ls : List (Nat × List Char)) : content ((n, line) :: ls) = (n, trim line) :: content ls := by
  simp [content, h]

theorem content_singleton_congr {n : Nat} {l m : List Char} (h : trim l = trim m) :
    content [(n, l)] = content [(n, m)] := by
  cases hl : isVoid l with
  | true =>
    rw [content_cons_of_void hl, content_cons_of_void (isVoid_congr h ▸ hl)]
  | false =>
    rw [content_cons_of_not_void hl, content_cons_of_not_void (isVoid_congr h ▸ hl), h]

/-! ## Blanks at the ends of a line -/

/-- A walk passes blanks from anywhere. -/
theorem walk_blank {b : List Char} (hb : AllBlank b) (d : Nat) (q : Quoting) :
    walk (d, q) b = some (d, q.after b) := by
  induction b generalizing q with
  | nil => rfl
  | cons c b ih =>
    have hc : step (d, q) c = some (d, q.next c) := by
      have hblank := hb c List.mem_cons_self
      by_cases hq : q = .outside
      · subst hq
        rw [step_of_isBlank hblank,
          Quoting.next_outside_of_not_opens (Quoting.not_opens_of_isBlank hblank)]
      · exact step_of_ne_outside hq c
    rw [walk_cons, hc, Option.bind_some, ih fun e he => hb e (List.mem_cons_of_mem c he)]
    rfl

theorem scan_blank_append {b : List Char} (hb : AllBlank b) (d : Nat) (s : List Char) :
    scan d (b ++ s) = (scan d s).map (.prepend b) :=
  scanFrom_append (walk_allBlank hb d) s

/-- **Blanks behind a line are kept, or they change nothing.** -/
theorem scan_append_blank {b : List Char} (hb : AllBlank b) (d : Nat) (s : List Char) :
    scan d (s ++ b) = scan d s ∨
      ∃ e, scan d s = .ok (.pending e s) ∧ scan d (s ++ b) = .ok (.pending e (s ++ b)) := by
  obtain ⟨a, p, t, o, rfl, ha, ht, hs⟩ := scan_cases d s
  cases ht with
  | endOfLine e =>
    have hab : walk (d, .outside) (a ++ b) = some (e, .outside) := by
      rw [walk_append, ha, Option.bind_some, walk_allBlank hb]
    rw [List.append_nil]
    exact Or.inr ⟨e, scan_eq_pending_iff.mpr ⟨ha, [], (List.append_nil a).symm, Or.inl rfl⟩,
      scan_eq_pending_iff.mpr ⟨hab, [], (List.append_nil _).symm, Or.inl rfl⟩⟩
  | @inLiteral e q hq =>
    -- a literal that the line leaves open stays open behind blanks
    have hproper : q.Proper := by
      rw [walk_quoting ha]
      exact Quoting.proper_outside.after a
    have hne : q.after b ≠ .outside := fun h =>
      hq ((Quoting.after_eq_outside_of_allBlank hproper hb).mp h)
    have hab : walk (d, .outside) (a ++ b) = some (e, q.after b) := by
      rw [walk_append, ha, Option.bind_some, walk_blank hb]
    have hsb := scan_eq_of_walk hab (.inLiteral e hne)
    rw [List.append_nil] at hsb
    exact Or.inl (by rw [hs, List.append_nil]; exact hsb)
  | comment e u =>
    exact Or.inl (by rw [hs, List.append_assoc]; exact scan_eq_of_walk ha (.comment e (u ++ b)))
  | unmatched u =>
    exact Or.inl (by rw [hs, List.append_assoc]; exact scan_eq_of_walk ha (.unmatched (u ++ b)))
  | @closed u hu =>
    have hub : isVoid (u ++ b) = true := by rw [isVoid_append_blank hb, hu]
    exact Or.inl (by rw [hs, List.append_assoc]; exact scan_eq_of_walk ha (.closed hub))
  | @textAfter u hu =>
    have hub : isVoid (u ++ b) = false := by rw [isVoid_append_blank hb, hu]
    have hsb := scan_eq_of_walk ha (.textAfter hub)
    rw [trim_append_blank hb] at hsb
    exact Or.inl (by rw [hs, List.append_assoc]; exact hsb)

/-! ## Steps -/

/-- A line that starts a declaration is read like another if the scans behind their equals signs
agree, and what is kept of them is the same when it is trimmed. -/
theorem startLine_congr {name name' value value' : List Char} (hname : '=' ∉ name)
    (hname' : '=' ∉ name') (hs : scan 0 value' = scan 0 value)
    (hkeep : ∀ s, trim (name' ++ '=' :: s) = trim (name ++ '=' :: s))
    (hline : trim (name' ++ '=' :: value') = trim (name ++ '=' :: value)) (n : Nat) :
    startLine n (name' ++ '=' :: value') = startLine n (name ++ '=' :: value) := by
  cases hv : scan 0 value with
  | error f => rw [startLine_error hname hv, startLine_error hname' (hs.trans hv)]
  | ok r =>
    cases r with
    | closed kept =>
      rw [startLine_closed hname hv, startLine_closed hname' (hs.trans hv), hkeep]
    | pending d kept =>
      cases d with
      | zero => rw [startLine_noCall hname hv, startLine_noCall hname' (hs.trans hv), hline]
      | succ d => rw [startLine_pending hname hv, startLine_pending hname' (hs.trans hv), hkeep]

theorem startLine_append_blank {b : List Char} (hb : AllBlank b) (n : Nat) (line : List Char) :
    startLine n (line ++ b) = startLine n line := by
  by_cases h : '=' ∈ line
  · obtain ⟨name, value, hc⟩ : ∃ name value, cut? '=' line = some (name, value) := by
      cases hc : cut? '=' line with
      | none => exact absurd h (cut?_eq_none_iff.mp hc)
      | some p => exact ⟨p.1, p.2, rfl⟩
    obtain ⟨rfl, hname⟩ := cut?_eq_some_iff.mp hc
    have htrim (s : List Char) : trim (name ++ '=' :: (s ++ b)) = trim (name ++ '=' :: s) := by
      rw [← List.cons_append, ← List.append_assoc, trim_append_blank hb]
    rw [List.append_assoc, List.cons_append]
    rcases scan_append_blank hb 0 value with hs | ⟨e, hs, hsb⟩
    · exact startLine_congr hname hname hs (fun _ => rfl) (htrim value) n
    · cases e with
      | zero => rw [startLine_noCall hname hs, startLine_noCall hname hsb, htrim]
      | succ e => rw [startLine_pending hname hs, startLine_pending hname hsb, htrim]
  · have hb' : '=' ∉ line ++ b := by
      rw [List.mem_append, not_or]
      exact ⟨h, hb.not_mem (by decide)⟩
    rw [startLine_missing h, startLine_missing hb', trim_append_blank hb]

theorem startLine_blank_append {b : List Char} (hb : AllBlank b) (n : Nat) (line : List Char) :
    startLine n (b ++ line) = startLine n line := by
  cases hc : cut? '=' line with
  | none =>
    have h := cut?_eq_none_iff.mp hc
    have hb' : '=' ∉ b ++ line := by
      rw [List.mem_append, not_or]
      exact ⟨hb.not_mem (by decide), h⟩
    rw [startLine_missing h, startLine_missing hb', trim_blank_append hb]
  | some p =>
    obtain ⟨name, value⟩ := p
    obtain ⟨rfl, hname⟩ := cut?_eq_some_iff.mp hc
    have hbname : '=' ∉ b ++ name := by
      rw [List.mem_append, not_or]
      exact ⟨hb.not_mem (by decide), hname⟩
    have htrim (s : List Char) : trim (b ++ name ++ '=' :: s) = trim (name ++ '=' :: s) := by
      rw [List.append_assoc, trim_blank_append hb]
    rw [← List.append_assoc]
    exact startLine_congr hname hbname rfl htrim (htrim value) n

theorem continueLine_append_blank {b : List Char} (hb : AllBlank b) (call : OpenCall) (n : Nat)
    (line : List Char) : call.continueLine n (line ++ b) = call.continueLine n line := by
  rcases scan_append_blank hb call.depth line with hs | ⟨e, hs, hsb⟩
  · rw [OpenCall.continueLine, hs, OpenCall.continueLine]
  · rw [continueLine_pending hs, continueLine_pending hsb, trim_append_blank hb]

theorem continueLine_blank_append {b : List Char} (hb : AllBlank b) (call : OpenCall) (n : Nat)
    (line : List Char) : call.continueLine n (b ++ line) = call.continueLine n line := by
  have hs := scan_blank_append hb call.depth line
  cases hv : scan call.depth line with
  | error f =>
    rw [hv] at hs
    rw [continueLine_error hv, continueLine_error hs]
  | ok r =>
    rw [hv] at hs
    cases r with
    | closed kept => rw [continueLine_closed hv, continueLine_closed hs, trim_blank_append hb]
    | pending e kept => rw [continueLine_pending hv, continueLine_pending hs, trim_blank_append hb]

/-- **A line is read like the trimmed line.** -/
theorem readLine_trim (state : Option OpenCall) (n : Nat) (line : List Char) :
    readLine state n (trim line) = readLine state n line := by
  obtain ⟨a, b, ha, hb, hs⟩ := trim_split line
  conv => rhs; rw [hs]
  cases state with
  | none => rw [readLine, startLine_append_blank hb, startLine_blank_append ha]
  | some call => rw [readLine, continueLine_append_blank hb, continueLine_blank_append ha]

/-! ## Lines -/

/-- **Lines are read like their content.** -/
theorem readLines_content (state : Option OpenCall) (ls : List (Nat × List Char)) :
    readLines state (content ls) = readLines state ls := by
  induction state, ls using readLines_induction with
  | nil state => rfl
  | void state n line ls hv ih => rw [content_cons_of_void hv, readLines_void hv, ih]
  | error state n line ls e hv hr =>
    have hrt := (readLine_trim state n line).trans hr
    rw [content_cons_of_not_void hv, readLines_error hv hr,
      readLines_error (isVoid_trim line ▸ hv) hrt]
  | finished state n line ls d hv hr ih =>
    have hrt := (readLine_trim state n line).trans hr
    rw [content_cons_of_not_void hv, readLines_finished hv hr,
      readLines_finished (isVoid_trim line ▸ hv) hrt, ih]
  | opened state n line ls call hv hr ih =>
    have hrt := (readLine_trim state n line).trans hr
    rw [content_cons_of_not_void hv, readLines_opened hv hr,
      readLines_opened (isVoid_trim line ▸ hv) hrt, ih]

theorem readLines_congr {state : Option OpenCall} {ls ms : List (Nat × List Char)}
    (h : content ls = content ms) : readLines state ls = readLines state ms := by
  rw [← readLines_content, h, readLines_content]

end DartModels.Declaration
