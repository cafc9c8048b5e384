import DartModels.Proofs.Declaration.Content
import DartModels.Proofs.Field.TopLevel

/-!
# The state of a call from line to line

Between two lines of a call, a reader knows how many parentheses are open, whether one has opened
the call, and that it stands in no literal. A scan takes this state to that behind what it keeps of
the line (`CallState.scan`), since nothing else of the line counts.

The state composes. If a line leaves the call open, then what is kept of it and the next line can be
put on one line, with a space for the blanks between them, and one scan of this line does what the
two scans do one after another, whatever the next line holds. So lines can be collapsed before they
are scanned.

Results:
* `after_eq_of_walk`, `count_of_walk`: the state behind a walk, and the parentheses on the way;
* `exists_void_of_scan`: a scan leaves out nothing that counts;
* `accounts_of_scan`: it accounts for the state behind what it keeps (`Accounts`);
* `isClosed_iff`: it comes to the end of the call with the parenthesis that closes it;
* `CallState.scan_startLine`, `CallState.scan_continueLine`: a reader carries this state on;
* `scan_joined`: a scan of two lines on one;
* `scan_composes`: the state behind a line, and the line behind it.
-/

namespace DartModels.Declaration

open Text
open Call (unquotedFrom unquotedFrom_cons unquotedFrom_append mem_unquotedFrom_iff)

/-- What a reader knows of a call. -/
structure CallState where
  /-- How many parentheses are open. -/
  depth : Nat
  /-- A parenthesis has opened the call. -/
  opened : Bool
  quoting : Quoting
deriving DecidableEq, Repr

namespace Scanned

/-- The call ends in the line. -/
def isClosed : Scanned → Bool
  | closed _ => true
  | pending _ _ => false

/-- How many parentheses are open behind the line. -/
def depth : Scanned → Nat
  | closed _ => 0
  | pending d _ => d

/-- Something else is kept. -/
def mapKept (f : List Char → List Char) : Scanned → Scanned
  | closed k => closed (f k)
  | pending d k => pending d (f k)

@[simp] theorem kept_mapKept (f : List Char → List Char) (r : Scanned) :
    (r.mapKept f).kept = f r.kept := by
  cases r <;> rfl

end Scanned

namespace CallState

/-- The state behind one more character. Parentheses in literals are not counted. -/
def next (s : CallState) (c : Char) : CallState :=
  if s.quoting = .outside then
    { depth := if c = '(' then s.depth + 1 else if c = ')' then s.depth - 1 else s.depth
      opened := s.opened || c == '('
      quoting := s.quoting.next c }
  else { s with quoting := s.quoting.next c }

/-- The state behind a stretch of text. -/
def after (s : CallState) (t : List Char) : CallState :=
  t.foldl next s

/-- Scans a line, to the state behind what is kept of it. -/
def scan (s : CallState) (line : List Char) : Except Fault (Scanned × CallState) :=
  (scanFrom s.depth s.quoting line).map fun r => (r, s.after r.kept)

@[simp] theorem after_nil (s : CallState) : s.after [] = s := rfl

@[simp] theorem after_cons (s : CallState) (c : Char) (t : List Char) :
    s.after (c :: t) = (s.next c).after t := rfl

theorem after_append (s : CallState) (t u : List Char) :
    s.after (t ++ u) = (s.after t).after u :=
  List.foldl_append

end CallState

/-! ## States along a walk -/

theorem CallState.next_eq_of_step {d e : Nat} {q r : Quoting} {c : Char}
    (h : step (d, q) c = some (e, r)) (o : Bool) :
    (CallState.mk d o q).next c = ⟨e, o || (q = .outside && c == '('), r⟩ := by
  by_cases hq : q = .outside
  · subst hq
    rcases step_outside_cases h with ⟨rfl, hp⟩ | ⟨rfl, k, rfl, hp⟩ | ⟨-, ho, hcl, hp⟩
    · obtain ⟨rfl, rfl⟩ := Prod.mk.inj hp
      rfl
    · obtain ⟨rfl, rfl⟩ := Prod.mk.inj hp
      rfl
    · obtain ⟨rfl, rfl⟩ := Prod.mk.inj hp
      simp [next, ho, hcl]
  · rw [step_of_ne_outside hq] at h
    obtain ⟨rfl, rfl⟩ := Prod.mk.inj (Option.some.inj h)
    simp [next, hq]

/-- **The state behind a walk.** -/
theorem after_eq_of_walk {d e : Nat} {q r : Quoting} {s : List Char}
    (h : walk (d, q) s = some (e, r)) (o : Bool) :
    (CallState.mk d o q).after s = ⟨e, o || decide ('(' ∈ unquotedFrom q s), r⟩ := by
  induction s generalizing d q o with
  | nil =>
    obtain ⟨rfl, rfl⟩ := Prod.mk.inj (Option.some.inj h)
    simp [unquotedFrom]
  | cons c s ih =>
    obtain ⟨⟨m, p⟩, hc, hs⟩ := walk_cons_eq_some_iff.mp h
    rw [CallState.after_cons, CallState.next_eq_of_step hc, ih hs, step_quoting hc]
    by_cases hq : q = .outside
    · subst hq
      simp [unquotedFrom, Bool.or_assoc, beq_eq_decide, eq_comm]
    · simp [hq, unquotedFrom_cons hq]

/-- **The parentheses on a walk** make the difference of depths, and no comment stands on it. -/
theorem count_of_walk {d e : Nat} {q r : Quoting} {s : List Char}
    (h : walk (d, q) s = some (e, r)) :
    e + (unquotedFrom q s).count ')' = d + (unquotedFrom q s).count '(' ∧
      '#' ∉ unquotedFrom q s := by
  induction s generalizing d q with
  | nil =>
    obtain ⟨rfl, rfl⟩ := Prod.mk.inj (Option.some.inj h)
    simp [unquotedFrom]
  | cons c s ih =>
    obtain ⟨⟨m, p⟩, hc, hs⟩ := walk_cons_eq_some_iff.mp h
    obtain ⟨hcount, hcomment⟩ := ih hs
    obtain rfl := step_quoting hc
    by_cases hq : q = .outside
    · subst hq
      rw [unquotedFrom, List.count_cons, List.count_cons, List.mem_cons, not_or]
      rcases step_outside_cases hc with ⟨rfl, hp⟩ | ⟨rfl, k, rfl, hp⟩ | ⟨hh, ho, hcl, hp⟩
      · obtain ⟨rfl, -⟩ := Prod.mk.inj hp
        exact ⟨by simp; omega, by decide, hcomment⟩
      · obtain ⟨rfl, -⟩ := Prod.mk.inj hp
        exact ⟨by simp; omega, by decide, hcomment⟩
      · obtain ⟨rfl, -⟩ := Prod.mk.inj hp
        exact ⟨by simpa [ho, hcl] using hcount, Ne.symm hh, hcomment⟩
    · rw [step_of_ne_outside hq] at hc
      obtain ⟨rfl, -⟩ := Prod.mk.inj (Option.some.inj hc)
      rw [unquotedFrom_cons hq]
      exact ⟨hcount, hcomment⟩

/-- **The account of a text between two states**, the second of which stands in no literal: the
parentheses outside of literals make the difference of depths, one that opens has opened the call,
and no comment stands there. -/
structure Accounts (s t : CallState) (text : List Char) : Prop where
  quoting : t.quoting = .outside
  depth : t.depth + (unquotedFrom s.quoting text).count ')' =
    s.depth + (unquotedFrom s.quoting text).count '('
  opened : t.opened = true ↔ s.opened = true ∨ '(' ∈ unquotedFrom s.quoting text
  comment : '#' ∉ unquotedFrom s.quoting text

theorem accounts_of_walk {s : CallState} {e : Nat} {text : List Char}
    (h : walk (s.depth, s.quoting) text = some (e, .outside)) : Accounts s (s.after text) text := by
  obtain ⟨hdepth, hcomment⟩ := count_of_walk h
  have hstate := after_eq_of_walk h s.opened
  exact
    { quoting := by rw [hstate]
      depth := by rw [hstate]; exact hdepth
      opened := by rw [hstate]; simp
      comment := hcomment }

/-- No walk passes the parenthesis that closes the call, which leaves none open. -/
theorem after_close_of_walk {s : CallState} {text : List Char}
    (h : walk (s.depth, s.quoting) text = some (1, .outside)) :
    s.after (text ++ [')']) =
      ⟨0, s.opened || decide ('(' ∈ unquotedFrom s.quoting text), .outside⟩ := by
  rw [CallState.after_append, after_eq_of_walk h]
  simp [CallState.next, Quoting.next, Quoting.opens]

theorem accounts_of_walk_close {s : CallState} {text : List Char}
    (h : walk (s.depth, s.quoting) text = some (1, .outside)) :
    Accounts s (s.after (text ++ [')'])) (text ++ [')']) := by
  obtain ⟨hdepth, hcomment⟩ := count_of_walk h
  have hclose : unquotedFrom s.quoting (text ++ [')']) = unquotedFrom s.quoting text ++ [')'] := by
    rw [unquotedFrom_append, ← walk_quoting h]
    rfl
  rw [after_close_of_walk h]
  exact
    { quoting := rfl
      depth := by
        rw [hclose, List.count_append, List.count_append]
        simpa [Nat.add_comm] using hdepth
      opened := by simp [hclose]
      comment := by simpa [hclose] using hcomment }

/-! ## Scans -/

theorem CallState.scan_eq_ok_iff {s t : CallState} (hs : s.quoting = .outside) {line : List Char}
    {r : Scanned} :
    s.scan line = .ok (r, t) ↔ Declaration.scan s.depth line = .ok r ∧ s.after r.kept = t := by
  rw [CallState.scan, hs, ← Declaration.scan]
  cases Declaration.scan s.depth line with
  | error f => simp [Except.map]
  | ok q =>
    simp only [Except.map, Except.ok.injEq, Prod.mk.injEq]
    constructor
    · rintro ⟨rfl, ht⟩
      exact ⟨rfl, ht⟩
    · rintro ⟨rfl, ht⟩
      exact ⟨rfl, ht⟩

/-- **Nothing is left out that counts**: what a scan does not keep of a line is void. -/
theorem exists_void_of_scan {d : Nat} {line : List Char} {r : Scanned}
    (h : scan d line = .ok r) : ∃ rest, line = r.kept ++ rest ∧ isVoid rest = true := by
  cases r with
  | closed kept =>
    obtain ⟨a, rest, rfl, hline, -, hrest⟩ := scan_eq_closed_iff.mp h
    exact ⟨rest, by rw [hline, Scanned.kept, List.append_cons], hrest⟩
  | pending e kept =>
    obtain ⟨-, rest, hline, hrest⟩ := scan_eq_pending_iff.mp h
    refine ⟨rest, hline, ?_⟩
    cases rest with
    | nil => rfl
    | cons c u =>
      obtain rfl : c = '#' := by simpa using hrest
      rfl

/-- **A scan accounts for what it keeps**, and knows the depth behind it. -/
theorem accounts_of_scan {s : CallState} (hs : s.quoting = .outside) {line : List Char}
    {r : Scanned} (h : scan s.depth line = .ok r) :
    Accounts s (s.after r.kept) r.kept ∧ (s.after r.kept).depth = r.depth := by
  obtain ⟨d, o, q⟩ := s
  obtain rfl : q = .outside := hs
  cases r with
  | closed kept =>
    obtain ⟨a, u, rfl, -, ha, -⟩ := scan_eq_closed_iff.mp h
    exact ⟨accounts_of_walk_close ha, congrArg CallState.depth (after_close_of_walk ha)⟩
  | pending e kept =>
    obtain ⟨hw, -⟩ := scan_eq_pending_iff.mp h
    exact ⟨accounts_of_walk hw, congrArg CallState.depth (after_eq_of_walk hw o)⟩

/-- **A scan comes to the end of the call** with the parenthesis that brings the depth to zero. -/
theorem isClosed_iff {s : CallState} (hs : s.quoting = .outside) {line : List Char}
    {r : Scanned} (h : scan s.depth line = .ok r) :
    r.isClosed = true ↔ ∃ k, r.kept = k ++ [')'] ∧ (s.after k).quoting = .outside ∧
      (s.after k).depth = 1 ∧ (s.after r.kept).depth = 0 := by
  obtain ⟨d, o, q⟩ := s
  obtain rfl : q = .outside := hs
  cases r with
  | closed kept =>
    obtain ⟨a, u, rfl, -, ha, -⟩ := scan_eq_closed_iff.mp h
    have hstate := after_eq_of_walk ha o
    have hdepth := congrArg CallState.depth (after_close_of_walk (s := ⟨d, o, .outside⟩) ha)
    exact ⟨fun _ => ⟨a, rfl, by rw [hstate], by rw [hstate], hdepth⟩, fun _ => rfl⟩
  | pending e kept =>
    refine ⟨fun hclosed => absurd hclosed Bool.false_ne_true, ?_⟩
    -- a walk through what is kept would have to pass that parenthesis
    rintro ⟨k, rfl, hquoting, hdepth, -⟩
    obtain ⟨⟨m, p⟩, hk, hclose⟩ := walk_append_eq_some_iff.mp (scan_eq_pending_iff.mp h).1
    rw [after_eq_of_walk hk] at hquoting hdepth
    obtain rfl : p = .outside := hquoting
    obtain rfl : m = 1 := hdepth
    cases hclose

/-! ## The state that a reader carries -/

/-- The state in front of a call. -/
def CallState.initial : CallState :=
  ⟨0, false, .outside⟩

/-- The state of an open call. -/
def CallState.ofOpen (call : OpenCall) : CallState :=
  ⟨call.depth, true, .outside⟩

/-- **Behind a first line, the depth tells whether the call has been opened**: a call that is open
stays open up to the parenthesis that closes it. -/
theorem opened_iff_depth_pos {head kept : List Char} {e : Nat}
    (h : scan 0 head = .ok (.pending e kept)) :
    (CallState.initial.after kept).opened = true ↔ 0 < e := by
  obtain ⟨hw, -⟩ := scan_eq_pending_iff.mp h
  have hstate : CallState.initial.after kept = _ := after_eq_of_walk hw false
  rw [hstate, Bool.false_or, decide_eq_true_iff]
  constructor
  · intro hmem
    obtain ⟨a, b, rfl, ha⟩ := mem_unquotedFrom_iff.mp hmem
    obtain ⟨⟨m, p⟩, hwa, hwb⟩ := walk_append_eq_some_iff.mp hw
    obtain rfl : p = .outside := (walk_quoting hwa).trans ha
    rw [walk_cons, step_open, Option.bind_some] at hwb
    exact walk_pos (Nat.succ_pos m) hwb
  · intro he
    obtain ⟨hcount, -⟩ := count_of_walk hw
    have hpos : 0 < (unquotedFrom .outside kept).count '(' := by omega
    exact List.count_pos_iff.mp hpos

/-- **A line that starts a call** brings a reader from the first state to that of the call. -/
theorem CallState.scan_startLine {n : Nat} {line : List Char} {call : OpenCall}
    (h : startLine n line = .ok (.inr call)) :
    ∃ name value kept, cut? '=' line = some (name, value) ∧
      CallState.initial.scan value = .ok (.pending call.depth kept, .ofOpen call) := by
  unfold startLine at h
  split at h
  · simp at h
  · rename_i name value hc
    split at h
    · simp at h
    · simp at h
    · simp at h
    · rename_i d kept hs
      obtain rfl := Sum.inr.inj (Except.ok.inj h)
      have hopened := (opened_iff_depth_pos hs).mpr (Nat.succ_pos d)
      have hstate : CallState.initial.after kept = _ :=
        after_eq_of_walk (scan_eq_pending_iff.mp hs).1 false
      rw [hstate] at hopened
      refine ⟨name, value, kept, hc, (CallState.scan_eq_ok_iff rfl).mpr ⟨hs, hstate.trans ?_⟩⟩
      exact congrArg (CallState.mk (d + 1) · .outside) hopened

/-- **A line that continues a call** takes its state further. -/
theorem CallState.scan_continueLine {call call' : OpenCall} {n : Nat} {line : List Char}
    (h : call.continueLine n line = .ok (.inr call')) :
    ∃ kept, (CallState.ofOpen call).scan line =
      .ok (.pending call'.depth kept, .ofOpen call') := by
  unfold OpenCall.continueLine at h
  split at h
  · simp at h
  · simp at h
  · rename_i d kept hs
    obtain rfl := Sum.inr.inj (Except.ok.inj h)
    refine ⟨kept, (CallState.scan_eq_ok_iff rfl).mpr ⟨hs, ?_⟩⟩
    exact after_eq_of_walk (scan_eq_pending_iff.mp hs).1 true

/-! ## Two lines on one -/

/-- Two lines on one, with a space for the blanks between them. -/
def joined (a b : List Char) : List Char :=
  trimEnd a ++ ' ' :: trimStart b

/-- What is kept of a line without blanks in front has none in front. -/
theorem trimStart_kept {d : Nat} {b : List Char} {r : Scanned}
    (h : scan d (trimStart b) = .ok r) : trimStart r.kept = r.kept := by
  refine trimStart_of_head fun c hc => ?_
  obtain ⟨u, hu⟩ := kept_isPrefixOf h
  refine head_trimStart (s := b) ?_
  rw [← hu, List.head?_append, hc, Option.some_or]

/-- **A scan of two lines on one** goes on as that of the second line does. -/
theorem scan_joined {d e : Nat} {a : List Char} (ha : walk (d, .outside) a = some (e, .outside))
    (b : List Char) :
    scan d (joined a b) = (scan e b).map (.mapKept (joined a)) := by
  have hw : walk (d, .outside) (trimEnd a ++ [' ']) = some (e, .outside) := by
    rw [walk_append, walk_trimEnd ha]
    rfl
  obtain ⟨c, hc, hb⟩ := trimStart_split b
  have hline : scan d (joined a b) =
      (scan e (trimStart b)).map (.prepend (trimEnd a ++ [' '])) := by
    rw [joined, List.append_cons]
    exact scanFrom_append hw _
  have hsecond : scan e b = (scan e (trimStart b)).map (.prepend c) := by
    rw [← scan_blank_append hc, ← hb]
  rw [hline, hsecond]
  cases hs : scan e (trimStart b) with
  | error f => rfl
  | ok r =>
    -- blanks in front of the second line are dropped with those in front of what is kept of it
    have hkept : joined a (c ++ r.kept) = trimEnd a ++ [' '] ++ r.kept := by
      rw [joined, trimStart_blank_append hc, trimStart_kept hs, List.append_cons]
    cases r with
    | closed k => exact congrArg (Except.ok ∘ Scanned.closed) hkept.symm
    | pending m k => exact congrArg (Except.ok ∘ Scanned.pending m) hkept.symm

namespace CallState

/-- Blanks outside of literals leave the state as it is. -/
theorem after_allBlank {s : CallState} (hs : s.quoting = .outside) {b : List Char}
    (hb : AllBlank b) : s.after b = s := by
  obtain ⟨d, o, q⟩ := s
  obtain rfl : q = .outside := hs
  have hopens : '(' ∉ unquotedFrom .outside b := by
    intro hmem
    obtain ⟨a, c, rfl, -⟩ := mem_unquotedFrom_iff.mp hmem
    exact hb.not_mem (by decide) (List.mem_append_right a List.mem_cons_self)
  rw [after_eq_of_walk (walk_allBlank hb d) o, decide_eq_false hopens, Bool.or_false]

/-- The state behind two lines on one. -/
theorem after_joined {s : CallState} {a : List Char}
    (ha : (s.after (trimEnd a)).quoting = .outside) (b : List Char) :
    s.after (joined a b) = (s.after a).after b := by
  obtain ⟨c, hc, hac⟩ := trimEnd_split a
  obtain ⟨k, hk, hkb⟩ := trimStart_split b
  calc
    s.after (joined a b)
    _ = ((s.after (trimEnd a)).after [' ']).after (trimStart b) := by
      rw [joined, List.append_cons, after_append, after_append]
    _ = (s.after (trimEnd a)).after (trimStart b) := by
      rw [after_allBlank ha (.singleton (by decide))]
    _ = (((s.after (trimEnd a)).after c).after k).after (trimStart b) := by
      rw [after_allBlank ha hc, after_allBlank ha hk]
    _ = (s.after a).after b := by
      rw [← after_append s, ← hac, ← after_append (s.after a), ← hkb]

theorem scan_joined {s : CallState} (hs : s.quoting = .outside) {line a : List Char} {e : Nat}
    (h : Declaration.scan s.depth line = .ok (.pending e a)) (b : List Char) :
    s.scan (joined a b) = ((s.after a).scan b).map fun p => (p.1.mapKept (joined a), p.2) := by
  obtain ⟨d, o, q⟩ := s
  obtain rfl : q = .outside := hs
  obtain ⟨hw, -⟩ := scan_eq_pending_iff.mp h
  have hquoting : ((mk d o .outside).after (trimEnd a)).quoting = .outside :=
    congrArg quoting (after_eq_of_walk (walk_trimEnd hw) o)
  have hstate := after_eq_of_walk hw o
  have hscan : (mk d o .outside).scan (joined a b) = ((Declaration.scan e b).map
      (.mapKept (joined a))).map fun r => (r, (mk d o .outside).after r.kept) := by
    rw [← Declaration.scan_joined hw]
    rfl
  have hsecond : ((mk d o .outside).after a).scan b = (Declaration.scan e b).map fun r =>
      (r, ((mk d o .outside).after a).after r.kept) := by
    rw [scan, hstate]
    rfl
  rw [hscan, hsecond]
  cases Declaration.scan e b with
  | error f => rfl
  | ok r =>
    simp only [Except.map, Scanned.kept_mapKept, after_joined hquoting]

end CallState

/-- **The state of a call composes over its lines.** What is kept of a line accounts for the state
behind it and ends with the parenthesis that closes the call, if the line closes it. Otherwise the
next line may stand behind it on the same line, and is scanned there as from that state. -/
theorem scan_composes {s t : CallState} (hs : s.quoting = .outside) {line : List Char}
    {r : Scanned} (h : s.scan line = .ok (r, t)) :
    (∃ rest, line = r.kept ++ rest ∧ isVoid rest = true) ∧
      Accounts s t r.kept ∧ t.depth = r.depth ∧
      (r.isClosed = true ↔ ∃ k, r.kept = k ++ [')'] ∧ (s.after k).quoting = .outside ∧
        (s.after k).depth = 1 ∧ t.depth = 0) ∧
      (r.isClosed = false → ∀ b, s.scan (joined r.kept b) =
        (t.scan b).map fun p => (p.1.mapKept (joined r.kept), p.2)) := by
  obtain ⟨hr, rfl⟩ := (CallState.scan_eq_ok_iff hs).mp h
  obtain ⟨haccounts, hdepth⟩ := accounts_of_scan hs hr
  refine ⟨exists_void_of_scan hr, haccounts, hdepth, isClosed_iff hs hr, fun hopen b => ?_⟩
  cases r with
  | closed kept => exact absurd hopen Bool.noConfusion
  | pending e kept => exact CallState.scan_joined hs hr b

/-- Inside a call, a line with parentheses and a number sign in a literal opens one more and ends
with a comment; what follows it may stand on the same line. -/
theorem scan_composes_comment :
    (CallState.mk 1 true .outside).quoting = .outside ∧
      (CallState.mk 1 true .outside).scan "  'a)#', (b  # c".toList =
        .ok (.pending 2 "  'a)#', (b  ".toList, ⟨2, true, .outside⟩) ∧
      Accounts ⟨1, true, .outside⟩ ⟨2, true, .outside⟩ "  'a)#', (b  ".toList ∧
      (CallState.mk 1 true .outside).scan "  'a)#', (b ) )  # end".toList =
        .ok (.closed "  'a)#', (b ) )".toList, ⟨0, true, .outside⟩) := by
  have hline : (CallState.mk 1 true .outside).scan "  'a)#', (b  # c".toList =
      .ok (.pending 2 "  'a)#', (b  ".toList, ⟨2, true, .outside⟩) := by rfl
  obtain ⟨-, haccounts, -, -, hjoined⟩ := scan_composes rfl hline
  refine ⟨rfl, hline, haccounts, ?_⟩
  exact hjoined rfl "\t) )  # end".toList

end DartModels.Declaration
