import DartModels.Declaration.Reading
import DartModels.Proofs.Progress

/-!
# The steps of a reader of declarations

What a reader does with one line, as equations: one for each way in which the scan of the line can
end, for a line that starts a declaration and for one inside a call, and one for each of the four
things that can become of a line. These are the cases of an induction over lines
(`readLines_induction`), and of the relation between the states before and behind them (`Reads`).

Results:
* `Reads.readLines_append`, `StopsAt.error_append`: behind lines that are gone through, others are
  read from the state that these lead to, and behind a line that is an error nothing counts;
* `reads_or_stops`: lines are gone through, or one of them is an error;
* `reads_of_readLines`: lines that are read without an error are gone through, and leave no call
  open.
-/

namespace DartModels.Declaration

open Text

/-! ## A line that starts a declaration -/

theorem startLine_missing {line : List Char} (h : '=' ∉ line) (n : Nat) :
    startLine n line = .error (.missingAssignment (String.ofList (trim line)) n) := by
  simp only [startLine, cut?_eq_none_iff.mpr h]

theorem startLine_error {name value : List Char} {f : Fault} (hname : '=' ∉ name)
    (hs : scan 0 value = .error f) (n : Nat) :
    startLine n (name ++ '=' :: value) = .error (f.onLine n) := by
  simp only [startLine, cut?_append hname, hs]

theorem startLine_noCall {name value kept : List Char} (hname : '=' ∉ name)
    (hs : scan 0 value = .ok (.pending 0 kept)) (n : Nat) :
    startLine n (name ++ '=' :: value) =
      .error ((Fault.noCall (String.ofList (trim (name ++ '=' :: value)))).onLine n) := by
  simp only [startLine, cut?_append hname, hs]

theorem startLine_closed {name value kept : List Char} (hname : '=' ∉ name)
    (hs : scan 0 value = .ok (.closed kept)) (n : Nat) :
    startLine n (name ++ '=' :: value) =
      .ok (.inl ⟨String.ofList (trim (name ++ '=' :: kept)), n⟩) := by
  simp only [startLine, cut?_append hname, hs]

theorem startLine_pending {name value kept : List Char} {d : Nat} (hname : '=' ∉ name)
    (hs : scan 0 value = .ok (.pending (d + 1) kept)) (n : Nat) :
    startLine n (name ++ '=' :: value) = .ok (.inr ⟨n, d + 1, trim (name ++ '=' :: kept), []⟩) := by
  simp only [startLine, cut?_append hname, hs]

/-! ## A line inside a call -/

theorem continueLine_error {call : OpenCall} {line : List Char} {f : Fault}
    (hs : scan call.depth line = .error f) (n : Nat) :
    call.continueLine n line = .error (f.onLine n) := by
  simp only [OpenCall.continueLine, hs]

theorem continueLine_closed {call : OpenCall} {line kept : List Char}
    (hs : scan call.depth line = .ok (.closed kept)) (n : Nat) :
    call.continueLine n line = .ok (.inl (call.push (trim kept)).finish) := by
  simp only [OpenCall.continueLine, hs]

theorem continueLine_pending {call : OpenCall} {line kept : List Char} {d : Nat}
    (hs : scan call.depth line = .ok (.pending d kept)) (n : Nat) :
    call.continueLine n line = .ok (.inr { call.push (trim kept) with depth := d }) := by
  simp only [OpenCall.continueLine, hs]

theorem push_later (call : OpenCall) (part : List Char) :
    (call.push part).later.reverse = call.later.reverse ++ [part].filter (· ≠ []) := by
  unfold OpenCall.push
  cases part with
  | nil => simp
  | cons c part => simp

theorem push_start (call : OpenCall) (part : List Char) :
    (call.push part).start = call.start := by
  unfold OpenCall.push
  split <;> rfl

theorem push_line (call : OpenCall) (part : List Char) : (call.push part).line = call.line := by
  unfold OpenCall.push
  split <;> rfl

/-! ## Lines -/

theorem readLines_void {state : Option OpenCall} {n : Nat} {line : List Char}
    (hl : isVoid line = true) (ls : List (Nat × List Char)) :
    readLines state ((n, line) :: ls) = readLines state ls := by
  rw [readLines, if_pos hl]

theorem readLines_error {state : Option OpenCall} {n : Nat} {line : List Char} {e : SourceError}
    (hl : isVoid line = false) (h : readLine state n line = .error e)
    (ls : List (Nat × List Char)) : readLines state ((n, line) :: ls) = .stop e := by
  rw [readLines, if_neg (by simp [hl]), h]

theorem readLines_finished {state : Option OpenCall} {n : Nat} {line : List Char}
    {d : Declaration} (hl : isVoid line = false) (h : readLine state n line = .ok (.inl d))
    (ls : List (Nat × List Char)) :
    readLines state ((n, line) :: ls) = .cons d (readLines none ls) := by
  rw [readLines, if_neg (by simp [hl]), h]

theorem readLines_opened {state : Option OpenCall} {n : Nat} {line : List Char} {call : OpenCall}
    (hl : isVoid line = false) (h : readLine state n line = .ok (.inr call))
    (ls : List (Nat × List Char)) :
    readLines state ((n, line) :: ls) = readLines (some call) ls := by
  rw [readLines, if_neg (by simp [hl]), h]

/-- **Induction over the lines as they are read**: a line is passed over, or it is an error, or it
finishes a declaration, or a call is open behind it. -/
theorem readLines_induction {P : Option OpenCall → List (Nat × List Char) → Prop}
    (nil : ∀ state, P state [])
    (void : ∀ state n line ls, isVoid line = true → P state ls → P state ((n, line) :: ls))
    (error : ∀ state n line ls e, isVoid line = false → readLine state n line = .error e →
      P state ((n, line) :: ls))
    (finished : ∀ state n line ls d, isVoid line = false →
      readLine state n line = .ok (.inl d) → P none ls → P state ((n, line) :: ls))
    (opened : ∀ state n line ls call, isVoid line = false →
      readLine state n line = .ok (.inr call) → P (some call) ls → P state ((n, line) :: ls))
    (state : Option OpenCall) (ls : List (Nat × List Char)) : P state ls := by
  induction ls generalizing state with
  | nil => exact nil state
  | cons p ls ih =>
    obtain ⟨n, line⟩ := p
    cases hv : isVoid line with
    | true => exact void state n line ls hv (ih state)
    | false =>
      cases hr : readLine state n line with
      | error e => exact error state n line ls e hv hr
      | ok r =>
        cases r with
        | inl d => exact finished state n line ls d hv hr (ih none)
        | inr call => exact opened state n line ls call hv hr (ih (some call))

/-! ## From state to state -/

/-- From the first state a reader goes through the lines, finishes the declarations, and comes to
the second state. -/
inductive Reads :
    Option OpenCall → List (Nat × List Char) → List Declaration → Option OpenCall → Prop
  | nil (state : Option OpenCall) : Reads state [] [] state
  | void {state state' : Option OpenCall} {n : Nat} {line : List Char}
      {ls : List (Nat × List Char)} {ds : List Declaration} (hv : isVoid line = true)
      (h : Reads state ls ds state') : Reads state ((n, line) :: ls) ds state'
  | finished {state state' : Option OpenCall} {n : Nat} {line : List Char}
      {ls : List (Nat × List Char)} {d : Declaration} {ds : List Declaration}
      (hv : isVoid line = false) (hr : readLine state n line = .ok (.inl d))
      (h : Reads none ls ds state') : Reads state ((n, line) :: ls) (d :: ds) state'
  | opened {state state' : Option OpenCall} {n : Nat} {line : List Char}
      {ls : List (Nat × List Char)} {call : OpenCall} {ds : List Declaration}
      (hv : isVoid line = false) (hr : readLine state n line = .ok (.inr call))
      (h : Reads (some call) ls ds state') : Reads state ((n, line) :: ls) ds state'

/-- A reader goes through the lines before the one with number `n`, which is an error. -/
inductive StopsAt (n : Nat) (e : SourceError) : Option OpenCall → List (Nat × List Char) → Prop
  | mk {state state' : Option OpenCall} {before behind : List (Nat × List Char)}
      {line : List Char} {ds : List Declaration} (hb : Reads state before ds state')
      (hv : isVoid line = false) (he : readLine state' n line = .error e) :
      StopsAt n e state (before ++ (n, line) :: behind)

/-- Lines that are gone through, and others behind them. -/
theorem Reads.append {state state' state'' : Option OpenCall} {ls ms : List (Nat × List Char)}
    {ds es : List Declaration} (h : Reads state ls ds state') (h' : Reads state' ms es state'') :
    Reads state (ls ++ ms) (ds ++ es) state'' := by
  induction h with
  | nil state => exact h'
  | void hv _ ih => exact .void hv (ih h')
  | finished hv hr _ ih => exact .finished hv hr (ih h')
  | opened hv hr _ ih => exact .opened hv hr (ih h')

/-- **Behind lines that are gone through, others are read from the state that these lead to.** -/
theorem Reads.readLines_append {state state' : Option OpenCall} {ls : List (Nat × List Char)}
    {ds : List Declaration} (h : Reads state ls ds state') (ms : List (Nat × List Char)) :
    readLines state (ls ++ ms) = .prepend ds (readLines state' ms) := by
  induction h with
  | nil state => rfl
  | void hv _ ih => rw [List.cons_append, readLines_void hv, ih]
  | finished hv hr _ ih =>
    rw [List.cons_append, readLines_finished hv hr, ih]
    rfl
  | opened hv hr _ ih => rw [List.cons_append, readLines_opened hv hr, ih]

theorem Reads.readLines_eq {state state' : Option OpenCall} {ls : List (Nat × List Char)}
    {ds : List Declaration} (h : Reads state ls ds state') :
    readLines state ls = .prepend ds (readLines state' []) := by
  rw [← h.readLines_append, List.append_nil]

/-- **Nothing counts behind a line that is an error.** -/
theorem StopsAt.error_append {n : Nat} {e : SourceError} {state : Option OpenCall}
    {ls : List (Nat × List Char)} (h : StopsAt n e state ls) (ms : List (Nat × List Char)) :
    (readLines state (ls ++ ms)).error = some e := by
  obtain ⟨hb, hv, he⟩ := h
  rw [List.append_assoc, hb.readLines_append, List.cons_append, readLines_error hv he]
  rfl

/-- **Lines are gone through, or one of them is an error.** -/
theorem reads_or_stops (state : Option OpenCall) (ls : List (Nat × List Char)) :
    (∃ ds state', Reads state ls ds state') ∨ ∃ n e, StopsAt n e state ls := by
  induction state, ls using readLines_induction with
  | nil state => exact Or.inl ⟨[], state, .nil state⟩
  | error state n line ls e hv hr =>
    have hs : StopsAt n e state ([] ++ (n, line) :: ls) := .mk (.nil state) hv hr
    exact Or.inr ⟨n, e, hs⟩
  | void state n line ls hv ih =>
    rcases ih with ⟨ds, state', h⟩ | ⟨m, e, hb, hv', he⟩
    · exact Or.inl ⟨ds, state', .void hv h⟩
    · exact Or.inr ⟨m, e, .mk (.void hv hb) hv' he⟩
  | finished state n line ls d hv hr ih =>
    rcases ih with ⟨ds, state', h⟩ | ⟨m, e, hb, hv', he⟩
    · exact Or.inl ⟨d :: ds, state', .finished hv hr h⟩
    · exact Or.inr ⟨m, e, .mk (.finished hv hr hb) hv' he⟩
  | opened state n line ls call hv hr ih =>
    rcases ih with ⟨ds, state', h⟩ | ⟨m, e, hb, hv', he⟩
    · exact Or.inl ⟨ds, state', .opened hv hr h⟩
    · exact Or.inr ⟨m, e, .mk (.opened hv hr hb) hv' he⟩

/-- **Lines that are read without an error are gone through, and leave no call open.** -/
theorem reads_of_readLines {state : Option OpenCall} {ls : List (Nat × List Char)}
    {ds : List Declaration} (h : readLines state ls = ⟨ds, none⟩) : Reads state ls ds none := by
  rcases reads_or_stops state ls with ⟨ds', state', hr⟩ | ⟨n, e, hs⟩
  · rw [hr.readLines_eq] at h
    cases state' with
    | none =>
      obtain rfl : ds' ++ [] = ds := congrArg Progress.finished h
      rwa [List.append_nil]
    | some call => exact absurd (congrArg Progress.error h) (Option.some_ne_none _)
  · have he := hs.error_append []
    rw [List.append_nil, h] at he
    exact absurd he.symm (Option.some_ne_none e)

end DartModels.Declaration
