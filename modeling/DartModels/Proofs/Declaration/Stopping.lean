import DartModels.Proofs.Compilation.Append
import DartModels.Proofs.Declaration.Segmentation

/-!
# The line of an error

A reader stops at a line that is an error, or inside a call at the end of the text. The error tells
which (`SourceError.IsUnclosed`), and its line is the one that matters: up to the line before, a
text can still be completed, since the parentheses that are open can be closed; with the line that
is an error, it cannot. A call that the text leaves open can be closed behind the text.

Results:
* `readLine_eq_error`: an error of a line has the line's number, and is not that of an open call;
* `exists_closing`: a line closes the call that is open;
* `irreparable_of_stopsAt`: what can be read behind the lines before one that is an error, and
  behind this line;
* `isUnclosed_iff`, `opened_of_isUnclosed`: when a text ends inside a call, and where the call is;
* `declarations_error_exact`: what the line of an error says about the text.
-/

namespace DartModels

open Text

/-! ## Errors and their lines -/

namespace SourceError

/-- The line of an error, if it has one. -/
def line? : SourceError → Option Nat
  | malformed _ line => some line
  | missingAssignment _ line => some line
  | missingReference _ => none
  | invalidClassName _ => none

/-- The text ends inside a call. -/
def IsUnclosed (e : SourceError) : Prop :=
  ∃ start line, e = (Fault.unclosedCall start).onLine line

end SourceError

namespace Fault

theorem line?_onLine (f : Fault) (n : Nat) : (f.onLine n).line? = some n := rfl

theorem getElem?_toList_append {p : String} {i : Nat} {c : Char} (h : p.toList[i]? = some c)
    (q : String) : (p ++ q).toList[i]? = some c := by
  rw [String.toList_append, List.getElem?_append_left (List.getElem?_eq_some_iff.mp h).1, h]

/-- The message of an open call is that of no other fault. -/
theorem message_ne_unclosedCall {f : Fault} (h : ∀ start, f ≠ .unclosedCall start)
    (start : String) : f.message ≠ (unclosedCall start).message := by
  -- it is the only one that has this character in its third place
  have hstart : (unclosedCall start).message.toList[2]? = some 'c' :=
    getElem?_toList_append (by decide) _
  intro he
  rw [← he] at hstart
  cases f with
  | unclosedCall s => exact h s rfl
  | unmatchedParenthesis => exact absurd hstart (by decide)
  | unterminatedLiteral => exact absurd hstart (by decide)
  | missingFieldName => exact absurd hstart (by decide)
  | textAfterCall text =>
    have ht : (textAfterCall text).message.toList[2]? = some 'e' :=
      getElem?_toList_append (getElem?_toList_append (by decide) _) _
    rw [ht] at hstart
    exact absurd hstart (by decide)
  | noCall line =>
    have ht : (noCall line).message.toList[2]? = some 'p' := getElem?_toList_append (by decide) _
    rw [ht] at hstart
    exact absurd hstart (by decide)
  | emptyMemberName field =>
    have ht : (emptyMemberName field).message.toList[2]? = some 'e' :=
      getElem?_toList_append (getElem?_toList_append (by decide) _) _
    rw [ht] at hstart
    exact absurd hstart (by decide)

theorem not_isUnclosed {f : Fault} (h : ∀ start, f ≠ .unclosedCall start) (n : Nat) :
    ¬ (f.onLine n).IsUnclosed := by
  rintro ⟨start, line, he⟩
  exact message_ne_unclosedCall h start (SourceError.malformed.inj he).1

end Fault

namespace Declaration

/-- No scan is at fault for a call that is not closed. -/
theorem scan_error_ne {d : Nat} {line : List Char} {f : Fault} (h : scan d line = .error f) :
    ∀ start, f ≠ .unclosedCall start := by
  obtain ⟨a, p, t, o, rfl, ha, ht, hs⟩ := scan_cases d line
  rw [h] at hs
  rintro start rfl
  cases ht <;> simp [Except.map] at hs

theorem startLine_eq_error {n : Nat} {line : List Char} {e : SourceError}
    (h : startLine n line = .error e) : e.line? = some n ∧ ¬ e.IsUnclosed := by
  unfold startLine at h
  split at h
  · obtain rfl := Except.error.inj h
    refine ⟨rfl, ?_⟩
    rintro ⟨start, m, he⟩
    cases he
  · split at h
    · rename_i f hs
      obtain rfl := Except.error.inj h
      exact ⟨f.line?_onLine n, Fault.not_isUnclosed (scan_error_ne hs) n⟩
    · cases h
    · obtain rfl := Except.error.inj h
      exact ⟨rfl, Fault.not_isUnclosed (by simp) n⟩
    · cases h

theorem continueLine_eq_error {call : OpenCall} {n : Nat} {line : List Char} {e : SourceError}
    (h : call.continueLine n line = .error e) : e.line? = some n ∧ ¬ e.IsUnclosed := by
  unfold OpenCall.continueLine at h
  split at h
  · rename_i f hs
    obtain rfl := Except.error.inj h
    exact ⟨f.line?_onLine n, Fault.not_isUnclosed (scan_error_ne hs) n⟩
  · cases h
  · cases h

/-- **An error of a line has the line's number, and is not that of an open call.** -/
theorem readLine_eq_error {state : Option OpenCall} {n : Nat} {line : List Char} {e : SourceError}
    (h : readLine state n line = .error e) : e.line? = some n ∧ ¬ e.IsUnclosed := by
  cases state with
  | none => exact startLine_eq_error h
  | some call => exact continueLine_eq_error h

theorem StopsAt.error_eq {n : Nat} {e : SourceError} {state : Option OpenCall}
    {ls : List (Nat × List Char)} (h : StopsAt n e state ls) :
    e.line? = some n ∧ ¬ e.IsUnclosed := by
  obtain ⟨_, _, he⟩ := h
  exact readLine_eq_error he

/-! ## Closing a call -/

/-- All parentheses that are open but one can be closed. -/
theorem walk_replicate (d : Nat) :
    walk (d + 1, .outside) (List.replicate d ')') = some (1, .outside) := by
  induction d with
  | zero => rfl
  | succ d ih =>
    rw [List.replicate_succ, walk_cons, step_close, Option.bind_some, ih]

theorem Opened.depth_pos {block : List (List Char)} {call : OpenCall} (h : Opened block call) :
    0 < call.depth := by
  cases h with
  | mk _ _ _ _ _ _ hwalk => exact walk_pos Nat.one_pos hwalk

theorem Opened.length_pos {block : List (List Char)} {call : OpenCall} (h : Opened block call) :
    0 < block.length := by
  cases h with
  | mk => exact Nat.succ_pos _

/-- **A line closes the call that is open**, and none is needed where none is open. -/
theorem exists_closing {n : Nat} {block : List (List Char)} {state : Option OpenCall}
    (h : Consumed n block state) :
    ∃ t ds, ∀ m, readLines state (number m (lines t)) = ⟨ds, none⟩ := by
  cases state with
  | none => exact ⟨[], [], fun m => rfl⟩
  | some call =>
    have hpos := h.1.depth_pos
    obtain ⟨d, hd⟩ : ∃ d, call.depth = d + 1 := ⟨call.depth - 1, by omega⟩
    have hs : scan call.depth (List.replicate (d + 1) ')') =
        .ok (.closed (List.replicate (d + 1) ')')) := by
      rw [scan_eq_closed_iff, hd]
      exact ⟨List.replicate d ')', [], List.replicate_succ', List.replicate_succ',
        walk_replicate d, rfl⟩
    have hlines : lines (List.replicate (d + 1) ')') = [List.replicate (d + 1) ')'] := by
      rw [lines_of_not_mem (by simp), if_neg (by simp)]
    have hv : isVoid (List.replicate (d + 1) ')') = false := rfl
    refine ⟨List.replicate (d + 1) ')',
      [(call.push (trim (List.replicate (d + 1) ')'))).finish], fun m => ?_⟩
    have hread : readLine (some call) m (List.replicate (d + 1) ')') =
        .ok (.inl (call.push (trim (List.replicate (d + 1) ')'))).finish) :=
      continueLine_closed hs m
    rw [hlines, number_cons, number_nil, readLines_finished hv hread]
    rfl

/-- **Lines that are gone through can be completed.** -/
theorem exists_completion {ls : List (List Char)} {ds : List Declaration}
    {state : Option OpenCall} (h : Reads none (number 1 ls) ds state) :
    ∃ (t : String) (es : List Declaration),
      (readLines none (number 1 (ls ++ lines t.toList))).toExcept = .ok es := by
  obtain ⟨_, _, _, _, hs⟩ := cut_of_reads (show Consumed 1 [] none from rfl) h
  obtain ⟨t, es, ht⟩ := exists_closing hs
  refine ⟨String.ofList t, ds ++ es, ?_⟩
  rw [String.toList_ofList, number_append, h.readLines_append, ht]
  rfl

/-! ## Where a text is at fault -/

/-- A text that has an error has a line that is one, or ends inside a call. -/
theorem unclosed_or_stopsAt {ls : List (Nat × List Char)} {e : SourceError}
    (h : (readLines none ls).error = some e) :
    (∃ ds call, Reads none ls ds (some call) ∧ e = call.unclosed) ∨
      ∃ n, StopsAt n e none ls := by
  rcases reads_or_stops none ls with ⟨ds, state, hr⟩ | ⟨n, e', hs⟩
  · rw [hr.readLines_eq] at h
    cases state with
    | none => cases h
    | some call => exact Or.inl ⟨ds, call, hr, (Option.some.inj h).symm⟩
  · have he := hs.error_append []
    rw [List.append_nil, h, Option.some.injEq] at he
    exact Or.inr ⟨n, he ▸ hs⟩

/-- The line that is an error, among numbered lines. -/
theorem exists_of_stopsAt {k n : Nat} {e : SourceError} {ls : List (List Char)}
    (h : StopsAt k e none (number n ls)) :
    ∃ a line b ds state, ls = a ++ line :: b ∧ k = n + a.length ∧
      Reads none (number n a) ds state ∧ isVoid line = false ∧
      readLine state k line = .error e := by
  generalize hls : number n ls = ms at h
  obtain ⟨hb, hv, he⟩ := h
  obtain ⟨a, b, hab, rfl, rfl⟩ := number_eq_append_cons hls
  exact ⟨a, _, b, _, _, hab, rfl, hb, hv, he⟩

theorem isUnclosed_unclosed (call : OpenCall) : call.unclosed.IsUnclosed :=
  ⟨String.ofList call.start, call.line, rfl⟩

variable {text : String} {e : SourceError}

theorem error_lines (h : declarations text = .error e) :
    (readLines none (number 1 (lines text.toList))).error = some e :=
  Progress.toExcept_eq_error_iff.mp h

theorem error_newline (h : declarations text = .error e) :
    (readLines none (number 1 (lines (text.toList ++ ['\n'])))).error = some e := by
  rw [readLines_newline, error_lines h]

/-- What is read behind the first lines of a text. -/
theorem declarations_firstLines_append {n : Nat} (hn : n ≤ text.toList.count '\n' + 1)
    (t : String) :
    declarations (String.ofList (firstLines n text.toList) ++ t) =
      (readLines none
        (number 1 ((lines (text.toList ++ ['\n'])).take n ++ lines t.toList))).toExcept := by
  rw [declarations, readDeclarations, numberedLines_eq, String.toList_append,
    String.toList_ofList, lines_firstLines_append hn]

/-- **Up to the line before one that is an error, a text can be completed, and with this line it
cannot.** -/
theorem irreparable_of_stopsAt {k : Nat}
    (h : StopsAt k e none (number 1 (lines (text.toList ++ ['\n'])))) :
    (∃ t ds, declarations (String.ofList (firstLines (k - 1) text.toList) ++ t) = .ok ds) ∧
      ∀ t, declarations (String.ofList (firstLines k text.toList) ++ t) = .error e := by
  have hlen := length_lines_newline text.toList
  obtain ⟨a, line, b, ds, state, hab, rfl, hb, hv, he⟩ := exists_of_stopsAt h
  rw [hab, List.length_append, List.length_cons] at hlen
  constructor
  · obtain ⟨t, es, ht⟩ := exists_completion hb
    refine ⟨t, es, ?_⟩
    rw [declarations_firstLines_append (by omega), hab, Nat.add_sub_cancel_left,
      List.take_left, ht]
  · intro t
    have hstop : StopsAt (1 + a.length) e none (number 1 a ++ (1 + a.length, line) ::
        number (1 + a.length + 1) (lines t.toList)) := .mk hb hv he
    have herror := hstop.error_append []
    rw [List.append_nil, ← number_cons, ← number_append] at herror
    have htake : (a ++ line :: b).take (1 + a.length) = a ++ [line] := by
      rw [Nat.add_comm, List.take_length_add_append]
      rfl
    rw [declarations_firstLines_append (by omega), hab, Progress.toExcept_eq_error_iff, htake,
      List.append_assoc, List.singleton_append, herror]

/-- **The error is that of an open call exactly if the text can be completed.** -/
theorem isUnclosed_iff (h : declarations text = .error e) :
    e.IsUnclosed ↔ ∃ t ds, declarations (text ++ "\n" ++ t) = .ok ds := by
  have htext (t : String) : declarations (text ++ "\n" ++ t) = (readLines none
      (number 1 (lines (text.toList ++ ['\n']) ++ lines t.toList))).toExcept := by
    rw [declarations, readDeclarations, numberedLines_eq, String.toList_append,
      String.toList_append, List.append_assoc, ← lines_append_newline]
    rfl
  constructor
  · intro hu
    rcases unclosed_or_stopsAt (error_newline h) with ⟨ds, call, hr, rfl⟩ | ⟨k, hs⟩
    · obtain ⟨t, es, ht⟩ := exists_completion hr
      exact ⟨t, es, (htext t).trans ht⟩
    · exact absurd hu hs.error_eq.2
  · rintro ⟨t, ds, ht⟩
    rcases unclosed_or_stopsAt (error_newline h) with ⟨ds, call, hr, rfl⟩ | ⟨k, hs⟩
    · exact isUnclosed_unclosed call
    · rw [htext, Progress.toExcept_eq_ok_iff, number_append, hs.error_append] at ht
      exact absurd ht.1 (Option.some_ne_none e)

/-- **A text that ends inside a call** has the lines of that call behind lines that are divided into
declarations, and the error has the number of the first of them. -/
theorem opened_of_isUnclosed (h : declarations text = .error e) (hu : e.IsUnclosed) :
    ∃ a block ds call, lines text.toList = a ++ block ∧
      declarations (String.ofList (firstLines a.length text.toList)) = .ok ds ∧
      Opened block call ∧ e = call.unclosed ∧ call.line = a.length + 1 := by
  rcases unclosed_or_stopsAt (error_lines h) with ⟨ds, call, hr, rfl⟩ | ⟨k, hs⟩
  · obtain ⟨a, block, hls, hc, ho, hline⟩ := cut_of_reads (show Consumed 1 [] none from rfl) hr
    have hblock := ho.length_pos
    have hlt : a.length < (lines text.toList).length := by
      rw [← List.nil_append (lines text.toList), hls, List.length_append]
      omega
    refine ⟨a, block, ds, call, hls, ?_, ho, rfl, hline.trans (Nat.add_comm 1 a.length)⟩
    have hle : a.length ≤ text.toList.count '\n' + 1 :=
      Nat.le_trans (Nat.le_of_lt hlt) (length_lines_le text.toList)
    have hfirst := declarations_firstLines_append hle ""
    have hempty : lines "".toList = [] := rfl
    rw [String.append_empty, take_lines_newline hlt, ← List.nil_append (lines text.toList), hls,
      List.take_left, hempty, List.append_nil] at hfirst
    exact hfirst.trans (readLines_of_cut hc)
  · exact absurd hu hs.error_eq.2

/-- **An error has a line of the text.** -/
theorem exists_line? (h : declarations text = .error e) :
    ∃ k, e.line? = some k ∧ 1 ≤ k ∧ k ≤ (lines text.toList).length := by
  rcases unclosed_or_stopsAt (error_lines h) with ⟨_, call, _, rfl⟩ | ⟨k, hs⟩
  · obtain ⟨a, block, ds, call', hls, _, ho, he, hline⟩ :=
      opened_of_isUnclosed h (isUnclosed_unclosed call)
    have hblock := ho.length_pos
    refine ⟨a.length + 1, ?_, Nat.le_add_left 1 _, ?_⟩
    · rw [he, ← hline]
      rfl
    · rw [hls, List.length_append]
      omega
  · refine ⟨k, hs.error_eq.1, ?_⟩
    obtain ⟨a, line, b, _, _, hab, rfl, _⟩ := exists_of_stopsAt hs
    rw [hab, List.length_append, List.length_cons]
    omega

end Declaration

open Declaration in
/-- **The line of an error is where the text becomes irreparable.** Unless the text ends inside a
call, the lines before can be completed to a text of declarations, and no text that begins with the
lines up to this one has declarations: it has the same error. The error is that of an open call
exactly if the text itself can be completed, and then the lines before the error's line are divided
into declarations, and the lines from it on are those of the open call. -/
theorem declarations_error_exact {text : String} {e : SourceError}
    (h : declarations text = .error e) :
    ∃ k, e.line? = some k ∧ 1 ≤ k ∧ k ≤ (lines text.toList).length ∧
      (¬ e.IsUnclosed →
        (∃ t ds, declarations (String.ofList (firstLines (k - 1) text.toList) ++ t) = .ok ds) ∧
          ∀ t, declarations (String.ofList (firstLines k text.toList) ++ t) = .error e) ∧
      (e.IsUnclosed ↔ ∃ t ds, declarations (text ++ "\n" ++ t) = .ok ds) ∧
      (e.IsUnclosed → ∃ ds call,
        declarations (String.ofList (firstLines (k - 1) text.toList)) = .ok ds ∧
          Opened ((lines text.toList).drop (k - 1)) call ∧ call.line = k ∧ e = call.unclosed) := by
  obtain ⟨k, hk, hpos, hle⟩ := exists_line? h
  refine ⟨k, hk, hpos, hle, fun hu => ?_, isUnclosed_iff h, fun hu => ?_⟩
  · rcases unclosed_or_stopsAt (error_newline h) with ⟨_, call, _, rfl⟩ | ⟨m, hs⟩
    · exact absurd (isUnclosed_unclosed call) hu
    · obtain rfl : k = m := Option.some.inj (hk.symm.trans hs.error_eq.1)
      exact irreparable_of_stopsAt hs
  · obtain ⟨a, block, ds, call, hls, hds, ho, rfl, hline⟩ := opened_of_isUnclosed h hu
    obtain rfl : call.line = k := Option.some.inj hk
    refine ⟨ds, call, ?_, ?_, rfl, rfl⟩
    · rwa [hline, Nat.add_sub_cancel]
    · rwa [hline, Nat.add_sub_cancel, hls, List.drop_left]

/-- A literal that is left open inside a call, on the second line, and a call that is left open
behind a declaration. -/
theorem declarations_error_exact_two :
    (declarations "a = F(\n'b)\r\n)" = .error (Fault.unterminatedLiteral.onLine 2) ∧
      (∃ t ds, declarations ("a = F(\n" ++ t) = .ok ds) ∧
      ∀ t, declarations ("a = F(\n'b)\r\n" ++ t) =
        .error (Fault.unterminatedLiteral.onLine 2)) ∧
    declarations "a = F()\nb = G(\n'x'," = .error ((Fault.unclosedCall "b = G(").onLine 2) ∧
      (∃ t ds, declarations ("a = F()\nb = G(\n'x'," ++ "\n" ++ t) = .ok ds) ∧
      ∃ ds, declarations "a = F()\n" = .ok ds := by
  have h₁ : declarations "a = F(\n'b)\r\n)" = .error (Fault.unterminatedLiteral.onLine 2) := rfl
  have h₂ : declarations "a = F()\nb = G(\n'x'," =
      .error ((Fault.unclosedCall "b = G(").onLine 2) := rfl
  obtain ⟨k, hk, _, _, hstop, _⟩ := declarations_error_exact h₁
  obtain rfl : 2 = k := Option.some.inj hk
  obtain ⟨m, hm, _, _, _, hclose, hopen⟩ := declarations_error_exact h₂
  obtain rfl : 2 = m := Option.some.inj hm
  have hu : ((Fault.unclosedCall "b = G(").onLine 2).IsUnclosed := ⟨_, _, rfl⟩
  obtain ⟨ds, _, hds, _⟩ := hopen hu
  exact ⟨⟨h₁, hstop (Fault.not_isUnclosed (by simp) 2)⟩, h₂, hclose.mp hu, ds, hds⟩

end DartModels
