import DartModels.Proofs.Declaration.Segmentation

/-!
# What comments say

A comment goes from a number sign outside of literals to the end of its line. What it says has no
influence on the declarations of a text: two texts whose lines are the same but for their comments
(`SameLines`) have the same declarations, or none of them has any.

In a line that starts a declaration, comments are looked for behind the first equals sign only. What
stands before it is the name, with its number signs and quotes; so it does matter what is said
there, and behind a number sign that belongs to a name (`declarations_numberSign`).

Results:
* `SameCode.toOption_scan`: lines that are the same but for their comments are scanned alike;
* `toOption_readLine`: one step reads such lines alike;
* `toOption_readLines`: such lines are read alike;
* `toOption_declarations`: such texts have the same declarations, or each of them has an error.
-/

namespace DartModels

open Text

namespace Declaration

/-! ## Lines that are the same but for comments -/

/-- The same line, but for what its comment says. -/
inductive SameCode : List Char → List Char → Prop
  | refl (l : List Char) : SameCode l l
  | comment {code : List Char} (hc : Lexed code) (u v : List Char) :
      SameCode (code ++ '#' :: u) (code ++ '#' :: v)

/-- The same line outside of a call, but for what its comment says. If the line has an equals sign
and is not all comment, its comment stands behind the first equals sign and is looked for from
there. -/
inductive SameStart : List Char → List Char → Prop
  | assignment {name v w : List Char} (hname : '=' ∉ name) (h : SameCode v w) :
      SameStart (name ++ '=' :: v) (name ++ '=' :: w)
  | other {l m : List Char} (h : SameCode l m) (hl : Silent l ∨ '=' ∉ l ∧ '=' ∉ m) : SameStart l m

/-- The same lines, but for what their comments say, if they stand behind the lines `before`. A line
is outside of a call if the lines before it are divided into declarations. -/
inductive SameLines : List (List Char) → List (List Char) → List (List Char) → Prop
  | nil (before : List (List Char)) : SameLines before [] []
  | line {before ls ms : List (List Char)} {l m : List Char}
      (hstart : (∃ ds, Cut 1 before ds) → SameStart l m)
      (hinside : (¬ ∃ ds, Cut 1 before ds) → SameCode l m)
      (h : SameLines (before ++ [l]) ls ms) : SameLines before (l :: ls) (m :: ms)

theorem SameCode.isVoid_eq {l m : List Char} (h : SameCode l m) : isVoid l = isVoid m := by
  cases h with
  | refl => rfl
  | @comment code _ u v => exact isVoid_append_cons (by decide) code u v

theorem SameStart.isVoid_eq {l m : List Char} (h : SameStart l m) : isVoid l = isVoid m := by
  cases h with
  | @assignment name v w _ _ => exact isVoid_append_cons (by decide) name v w
  | other h _ => exact h.isVoid_eq

/-! ## Scans -/

theorem toOption_error {ε α : Type} (e : ε) : (Except.error e : Except ε α).toOption = none := rfl

/-- Two results that are the same but for their errors. -/
theorem ok_or_error_of_toOption_eq {ε δ α : Type} {x : Except ε α} {y : Except δ α}
    (h : x.toOption = y.toOption) :
    (∃ a, x = .ok a ∧ y = .ok a) ∨ ∃ e e', x = .error e ∧ y = .error e' := by
  cases x with
  | ok a =>
    cases y with
    | ok b =>
      obtain rfl := Option.some.inj h
      exact Or.inl ⟨a, rfl, rfl⟩
    | error e' => cases h
  | error e =>
    cases y with
    | ok b => cases h
    | error e' => exact Or.inr ⟨e, e', rfl, rfl⟩

/-- Behind the parenthesis that closes a call, a scan looks only whether the line is void. -/
theorem toOption_scan_close {d : Nat} {a : List Char}
    (ha : walk (d, .outside) a = some (1, .outside)) (t : List Char) :
    (scan d (a ++ ')' :: t)).toOption =
      if isVoid t then some (.closed (a ++ [')'])) else none := by
  cases ht : isVoid t with
  | true =>
    rw [scan_eq_of_walk ha (.closed ht)]
    rfl
  | false =>
    rw [scan_eq_of_walk ha (.textAfter ht)]
    rfl

/-- **What a comment says does not matter to a scan.** -/
theorem toOption_scan_comment {code : List Char} (hc : Lexed code) (d : Nat) (u v : List Char) :
    (scan d (code ++ '#' :: u)).toOption = (scan d (code ++ '#' :: v)).toOption := by
  -- the scan ends inside of the code, or it comes to the comment
  obtain ⟨a, ⟨e, q⟩, t, o, rfl, ha, ht⟩ := exists_ending (d, .outside) code
  rw [List.append_assoc, List.append_assoc]
  cases ht with
  | endOfLine =>
    have hs (w : List Char) : scan d (a ++ ([] ++ '#' :: w)) = .ok (.pending e (a ++ [])) :=
      scan_eq_of_walk ha (.comment e w)
    rw [hs u, hs v]
  | inLiteral _ hq =>
    rw [List.append_nil] at hc
    exact absurd ((walk_quoting ha).trans (after_lexed hc)) hq
  | comment _ w =>
    have hs (x : List Char) : scan d (a ++ ('#' :: w ++ x)) = .ok (.pending e (a ++ [])) :=
      scan_eq_of_walk ha (.comment e (w ++ x))
    rw [hs, hs]
  | unmatched w =>
    have hs (x : List Char) : scan d (a ++ (')' :: w ++ x)) = .error .unmatchedParenthesis :=
      scan_eq_of_walk ha (.unmatched (w ++ x))
    rw [hs, hs]
  | @closed w _ | @textAfter w _ =>
    rw [List.cons_append, List.cons_append, toOption_scan_close ha, toOption_scan_close ha,
      isVoid_append_cons (by decide) w u v]

theorem SameCode.toOption_scan {l m : List Char} (h : SameCode l m) (d : Nat) :
    (scan d l).toOption = (scan d m).toOption := by
  cases h with
  | refl => rfl
  | comment hc u v => exact toOption_scan_comment hc d u v

/-! ## Steps -/

theorem toOption_startLine {name v w : List Char} (hname : '=' ∉ name)
    (hs : (scan 0 v).toOption = (scan 0 w).toOption) (n : Nat) :
    (startLine n (name ++ '=' :: v)).toOption = (startLine n (name ++ '=' :: w)).toOption := by
  rcases ok_or_error_of_toOption_eq hs with ⟨r, hv, hw⟩ | ⟨f, f', hv, hw⟩
  · cases r with
    | closed kept => rw [startLine_closed hname hv, startLine_closed hname hw]
    | pending d kept =>
      cases d with
      | zero =>
        rw [startLine_noCall hname hv, startLine_noCall hname hw, toOption_error, toOption_error]
      | succ d => rw [startLine_pending hname hv, startLine_pending hname hw]
  · rw [startLine_error hname hv, startLine_error hname hw, toOption_error, toOption_error]

theorem toOption_continueLine {call : OpenCall} {l m : List Char}
    (hs : (scan call.depth l).toOption = (scan call.depth m).toOption) (n : Nat) :
    (call.continueLine n l).toOption = (call.continueLine n m).toOption := by
  rcases ok_or_error_of_toOption_eq hs with ⟨r, hl, hm⟩ | ⟨f, f', hl, hm⟩
  · rw [OpenCall.continueLine, OpenCall.continueLine, hl, hm]
  · rw [continueLine_error hl, continueLine_error hm, toOption_error, toOption_error]

/-- **What the comment of a line says does not matter to a step.** -/
theorem toOption_readLine {state : Option OpenCall} {l m : List Char} (hv : isVoid l = false)
    (hstart : state = none → SameStart l m) (hinside : state ≠ none → SameCode l m) (n : Nat) :
    (readLine state n l).toOption = (readLine state n m).toOption := by
  cases state with
  | some call =>
    exact toOption_continueLine ((hinside (Option.some_ne_none call)).toOption_scan call.depth) n
  | none =>
    cases hstart rfl with
    | assignment hname h => exact toOption_startLine hname (h.toOption_scan 0) n
    | other _ hl =>
      rcases hl with hl | ⟨hl, hm⟩
      · exact absurd hl (not_silent_iff.mpr hv)
      · rw [readLine, startLine_missing hl, startLine_missing hm]
        rfl

/-! ## Lines -/

/-- No call is open behind lines exactly if they are divided into declarations. -/
theorem Reads.exists_cut_iff {n : Nat} {ls : List (List Char)} {ds : List Declaration}
    {state : Option OpenCall} (h : Reads none (number n ls) ds state) :
    (∃ es, Cut n ls es) ↔ state = none := by
  constructor
  · rintro ⟨es, hc⟩
    have hes := readLines_of_cut hc
    rw [h.readLines_eq] at hes
    cases state with
    | none => rfl
    | some call => cases hes
  · rintro rfl
    refine ⟨ds ++ [], cut_of_readLines ?_⟩
    rw [h.readLines_eq]
    rfl

/-- **Lines that are the same but for their comments** are read to the same declarations, or are at
fault. -/
theorem toOption_readLines {before ls ms : List (List Char)} (h : SameLines before ls ms)
    {ds : List Declaration} {state : Option OpenCall}
    (hr : Reads none (number 1 before) ds state) :
    (readLines state (number (1 + before.length) ls)).toExcept.toOption =
      (readLines state (number (1 + before.length) ms)).toExcept.toOption := by
  induction h generalizing ds state with
  | nil => rfl
  | @line before ls ms l m hstart hinside _ ih =>
    rw [hr.exists_cut_iff] at hstart hinside
    have hvoid : isVoid l = isVoid m := by
      by_cases hs : state = none
      · exact (hstart hs).isVoid_eq
      · exact (hinside hs).isVoid_eq
    -- the lines behind this one, from where its step leads to
    have htail : ∀ {es : List Declaration} {state' : Option OpenCall},
        Reads state [(1 + before.length, l)] es state' →
        (readLines state' (number (1 + before.length + 1) ls)).toExcept.toOption =
          (readLines state' (number (1 + before.length + 1) ms)).toExcept.toOption := by
      intro es state' hl
      have hlen : 1 + before.length + 1 = 1 + (before ++ [l]).length := by
        rw [List.length_append, List.length_singleton, Nat.add_assoc]
      have hread := hr.append hl
      rw [← number_nil, ← number_cons, ← number_append] at hread
      rw [hlen, ih hread]
    rw [number_cons, number_cons]
    cases hv : isVoid l with
    | true => rw [readLines_void hv, readLines_void (hvoid ▸ hv), htail (.void hv (.nil state))]
    | false =>
      have hvm : isVoid m = false := hvoid ▸ hv
      have hstep := toOption_readLine hv hstart hinside (1 + before.length)
      rcases ok_or_error_of_toOption_eq hstep with ⟨d | call, hl, hm⟩ | ⟨e, e', hl, hm⟩
      · have hrest := htail (.finished hv hl (.nil none))
        rw [readLines_finished hv hl, readLines_finished hvm hm]
        rcases ok_or_error_of_toOption_eq hrest with ⟨es, hls, hms⟩ | ⟨e, e', hls, hms⟩
        · rw [Progress.toExcept_cons, Progress.toExcept_cons, hls, hms]
        · rw [Progress.toExcept_cons, Progress.toExcept_cons, hls, hms]
          rfl
      · rw [readLines_opened hv hl, readLines_opened hvm hm, htail (.opened hv hl (.nil _))]
      · rw [readLines_error hv hl, readLines_error hvm hm]
        rfl

end Declaration

open Declaration in
/-- **What comments say has no influence.** Two texts with the same lines but for their comments
have the same declarations, or each of them has an error. In a line outside of a call, the comment
is what follows a number sign behind the first equals sign. -/
theorem toOption_declarations {s t : String}
    (h : SameLines [] (lines s.toList) (lines t.toList)) :
    (declarations s).toOption = (declarations t).toOption :=
  toOption_readLines h (.nil none)

open Declaration in
/-- Comments with an equals sign, with a quote and with parentheses: alone on a line, behind the
parenthesis that opens a call, behind an argument, and behind the parenthesis that closes it. -/
theorem toOption_declarations_two :
    (declarations "# b = G(\na = F( # 'c\n'#', # )\n) # d").toOption =
        (declarations "#\na = F( #\n'#', # (\n) #=").toOption ∧
      (declarations "# b = G(\na = F( # 'c\n'#', # )\n) # d").toOption =
        some [⟨"a = F( '#', )", 2⟩] := by
  have hs : lines "# b = G(\na = F( # 'c\n'#', # )\n) # d".toList =
      ["# b = G(".toList, "a = F( # 'c".toList, "'#', # )".toList, ") # d".toList] := rfl
  have ht : lines "#\na = F( #\n'#', # (\n) #=".toList =
      ["#".toList, "a = F( #".toList, "'#', # (".toList, ") #=".toList] := rfl
  have hvoid : SameCode "# b = G(".toList "#".toList := .comment .nil " b = G(".toList []
  have hname : '=' ∉ "a ".toList := by decide
  have hvalue : SameCode " F( # 'c".toList " F( #".toList :=
    .comment (lexed_of_walk (d := 0) (s := " F( ".toList) rfl) " 'c".toList []
  have hline : SameCode "a = F( # 'c".toList "a = F( #".toList :=
    .comment (lexed_of_walk (d := 0) (s := "a = F( ".toList) rfl) " 'c".toList []
  have hargument : SameCode "'#', # )".toList "'#', # (".toList :=
    .comment (lexed_of_walk (d := 1) (s := "'#', ".toList) rfl) " )".toList " (".toList
  have hclose : SameCode ") # d".toList ") #=".toList :=
    .comment (lexed_of_walk (d := 2) (s := ") ".toList) rfl) " d".toList "=".toList
  -- the last line is inside of the call
  have hopen : ¬ ∃ ds, Cut 1 ["# b = G(".toList, "a = F( # 'c".toList, "'#', # )".toList] ds := by
    rintro ⟨ds, hc⟩
    have h : Except.error _ = Except.ok ds := readLines_of_cut hc
    cases h
  refine ⟨toOption_declarations ?_, rfl⟩
  rw [hs, ht]
  refine .line (fun _ => .other hvoid (Or.inl (Or.inr rfl))) (fun _ => hvoid) ?_
  refine .line (fun _ => .assignment hname hvalue) (fun _ => hline) ?_
  refine .line (fun _ => .other hargument (Or.inr (by decide))) (fun _ => hargument) ?_
  exact .line (fun h => absurd h hopen) (fun _ => hclose) (.nil _)

open Declaration in
/-- A number sign before the equals sign does not start a comment. What stands behind it counts,
although it is in no literal. -/
theorem declarations_numberSign :
    List.Forall₂ SameCode (lines "a#=F()".toList) (lines "a#".toList) ∧
      declarations "a#=F()" = .ok [⟨"a#=F()", 1⟩] ∧
      declarations "a#" = .error (.missingAssignment "a#" 1) := by
  have ha : Lexed "a".toList := .lexeme (.char (by decide) (by decide) (by decide)) .nil
  exact ⟨.cons (.comment ha "=F()".toList []) .nil, rfl, rfl⟩

end DartModels
