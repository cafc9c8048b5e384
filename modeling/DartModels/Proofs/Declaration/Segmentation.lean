import DartModels.Proofs.Declaration.Grammar
import DartModels.Proofs.Declaration.Reading
import DartModels.Proofs.Progress
import DartModels.Proofs.Text.Joining

/-!
# The division of a text into declarations

What a text of declarations is, without a reader: its lines are cut, from the top, into silent
lines and blocks, and a block is one declaration (`Declares`). Its first line has an equals sign;
what stands behind the first one and what stands in the later lines, each line cut at its comment,
is a call together, and the call is opened on the first line. The block collapses to one line.

Results:
* `opened_startLine`, `opened_continueLine`, `declares_startLine`, `declares_continueLine`: what one
  step of a reader has read;
* `cut_of_reads`: what a reader goes through is a division, and behind it a call that is open;
* `readLines_block`, `readLines_of_cut`: a division is found;
* `exists_block`, `pairwise_line`: where the declarations of a division stand;
* `declarations_eq_ok_iff_cut`: the reader succeeds on the texts that can be divided, and with
  their divisions.
-/

namespace DartModels

open Text

namespace Declaration

/-! ## Divisions -/

/-- A line that says nothing: a blank one or a comment. -/
def Silent (line : List Char) : Prop :=
  trim line = [] ∨ (trim line).head? = some '#'

/-- Lines inside a call, and what is kept of those that are not silent. -/
inductive Continued : List (List Char) → List (List Char) → Prop
  | nil : Continued [] []
  | silent {l : List Char} {ls ks : List (List Char)} (hl : Silent l) (h : Continued ls ks) :
      Continued (l :: ls) ks
  | line {l k : List Char} {ls ks : List (List Char)} (hl : ¬ Silent l) (hk : Bare l k)
      (h : Continued ls ks) : Continued (l :: ls) (k :: ks)

/-- What is kept of the lines of a call, a line feed between two of them. -/
def together (kept : List Char) (kepts : List (List Char)) : List Char :=
  kept ++ kepts.flatMap ('\n' :: ·)

/-- What is kept of the lines of a declaration on one line: every part trimmed, the empty ones left
out, and one space between them. -/
def collapsed (name kept : List Char) (kepts : List (List Char)) : List Char :=
  [' '].intercalate ((((name ++ '=' :: kept) :: kepts).map trim).filter (· ≠ []))

/-- The lines of one declaration, and the text that they collapse to. -/
inductive Declares : List (List Char) → List Char → Prop
  | mk {name head kept p b rest : List Char} {later kepts : List (List Char)}
      (hname : '=' ∉ name) (hfirst : ¬ Silent (name ++ '=' :: head)) (hkept : Bare head kept)
      (hlater : Continued later kepts)
      (hcall : together kept kepts = p ++ '(' :: b ++ ')' :: rest)
      (hplain : Plain p) (hbalanced : Balanced b) (hrest : AllBlank rest)
      (hopen : p ++ ['('] <+: kept) :
      Declares ((name ++ '=' :: head) :: later) (collapsed name kept kepts)

/-- Lines, the first of which has number `n`, cut from the top into silent lines and
declarations. -/
inductive Cut : Nat → List (List Char) → List Declaration → Prop
  | nil (n : Nat) : Cut n [] []
  | silent {n : Nat} {l : List Char} {ls : List (List Char)} {ds : List Declaration}
      (hl : Silent l) (h : Cut (n + 1) ls ds) : Cut n (l :: ls) ds
  | declaration {n : Nat} {block ls : List (List Char)} {text : List Char}
      {ds : List Declaration} (hb : Declares block text) (h : Cut (n + block.length) ls ds) :
      Cut n (block ++ ls) (⟨String.ofList text, n⟩ :: ds)

/-! ## What is kept of a line -/

theorem silent_iff {line : List Char} : Silent line ↔ isVoid line = true :=
  isVoid_iff.symm

theorem not_silent_iff {line : List Char} : ¬ Silent line ↔ isVoid line = false := by
  rw [silent_iff, Bool.not_eq_true]

theorem together_append (a t : List Char) (ks : List (List Char)) :
    together (a ++ t) ks = a ++ together t ks :=
  List.append_assoc a t _

theorem together_concat (t k : List Char) (ks : List (List Char)) :
    together t (ks ++ [k]) = together t ks ++ '\n' :: k := by
  simp [together]

theorem Lexed.append {a b : List Char} (ha : Lexed a) (hb : Lexed b) : Lexed (a ++ b) := by
  induction ha with
  | nil => exact hb
  | lexeme hl _ ih =>
    rw [List.append_assoc]
    exact .lexeme hl ih

/-- A void text is blank up to its end or to its comment. -/
theorem void_split {t : List Char} (h : isVoid t = true) :
    ∃ b u, t = b ++ u ∧ AllBlank b ∧ (u = [] ∨ u.head? = some '#') := by
  obtain ⟨b, hb, ht⟩ := trimStart_split t
  refine ⟨b, trimStart t, ht, hb, ?_⟩
  unfold isVoid at h
  cases hu : trimStart t with
  | nil => exact Or.inl rfl
  | cons c u =>
    rw [hu] at h
    exact Or.inr (congrArg some (beq_iff_eq.mp h))

theorem void_of_split {b u : List Char} (hb : AllBlank b) (hu : u = [] ∨ u.head? = some '#') :
    isVoid (b ++ u) = true := by
  rw [isVoid_blank_append hb]
  rcases hu with rfl | hu
  · rfl
  · cases u with
    | nil => rfl
    | cons c u =>
      obtain rfl : c = '#' := by simpa using hu
      rfl

/-- Something is kept of a line that is not silent. -/
theorem Bare.not_allBlank {line kept : List Char} (h : Bare line kept) (hl : ¬ Silent line) :
    ¬ AllBlank kept := by
  intro hb
  obtain ⟨t, rfl, ht⟩ := h.comment
  rw [silent_iff, void_of_split hb ht] at hl
  exact hl rfl

/-- **A scan leaves a call open with what is kept of the line.** -/
theorem scan_pending_iff {d e : Nat} {line kept : List Char} :
    scan d line = .ok (.pending e kept) ↔
      Bare line kept ∧ walk (d, .outside) kept = some (e, .outside) := by
  rw [scan_eq_pending_iff]
  constructor
  · rintro ⟨hw, hc⟩
    exact ⟨⟨lexed_of_walk hw, hc⟩, hw⟩
  · rintro ⟨hb, hw⟩
    exact ⟨hw, hb.comment⟩

/-- **A scan closes a call with the last parenthesis of what is kept of the line.** -/
theorem scan_closed_iff {d : Nat} {line a : List Char} :
    scan d line = .ok (.closed (a ++ [')'])) ↔ walk (d, .outside) a = some (1, .outside) ∧
      ∃ rest, AllBlank rest ∧ Bare line (a ++ ')' :: rest) := by
  rw [scan_eq_closed_iff]
  constructor
  · rintro ⟨a', t, ha, rfl, hw, ht⟩
    obtain rfl := List.append_cancel_right ha
    obtain ⟨rest, u, rfl, hr, hu⟩ := void_split ht
    refine ⟨hw, rest, hr, ?_, u, ?_, hu⟩
    · exact (lexed_of_walk hw).append (.lexeme
        (.char (c := ')') (by decide) (by decide) (by decide)) (lexed_of_walk (walk_allBlank hr 0)))
    · rw [List.append_assoc, List.cons_append]
  · rintro ⟨hw, rest, hr, hb⟩
    obtain ⟨u, rfl, hu⟩ := hb.comment
    refine ⟨a, rest ++ u, rfl, ?_, hw, void_of_split hr hu⟩
    rw [List.append_assoc, List.cons_append]

theorem scan_closed_cases {d : Nat} {line kept : List Char} (h : scan d line = .ok (.closed kept)) :
    ∃ a rest, kept = a ++ [')'] ∧ walk (d, .outside) a = some (1, .outside) ∧ AllBlank rest ∧
      Bare line (a ++ ')' :: rest) := by
  obtain ⟨a, t, rfl, _, _⟩ := scan_eq_closed_iff.mp h
  obtain ⟨hw, rest, hr, hb⟩ := scan_closed_iff.mp h
  exact ⟨a, rest, rfl, hw, hr, hb⟩

theorem collapsed_eq (name kept : List Char) (kepts : List (List Char)) :
    collapsed name kept kepts =
      collapse (trim (name ++ '=' :: kept)) ((kepts.map trim).filter (· ≠ [])) := by
  have hne : trim (name ++ '=' :: kept) ≠ [] := by
    rw [trim_append_cons (by decide)]
    simp
  unfold collapsed collapse
  rw [List.map_cons, List.filter_cons_of_pos (by simpa using hne)]

/-- Blanks behind the parenthesis that closes a call are trimmed away. -/
theorem trim_closing {rest : List Char} (hr : AllBlank rest) (a : List Char) :
    trim (a ++ ')' :: rest) = trim (a ++ [')']) := by
  rw [← trim_append_blank hr (a ++ [')']), List.append_assoc, List.singleton_append]

theorem continued_append {ls ks ms js : List (List Char)} (h : Continued ls ks)
    (h' : Continued ms js) : Continued (ls ++ ms) (ks ++ js) := by
  induction h with
  | nil => exact h'
  | silent hl _ ih => exact .silent hl ih
  | line hl hk _ ih => exact .line hl hk ih

/-- Nothing is kept of lines exactly if all of them are void. -/
theorem continued_nil_iff {ls : List (List Char)} :
    Continued ls [] ↔ ∀ l ∈ ls, isVoid l = true := by
  constructor
  · intro h
    induction ls with
    | nil => exact fun l hl => absurd hl List.not_mem_nil
    | cons m ls ih =>
      cases h with
      | silent hl h => exact List.forall_mem_cons.mpr ⟨silent_iff.mp hl, ih h⟩
  · intro h
    induction ls with
    | nil => exact .nil
    | cons l ls ih =>
      obtain ⟨hl, hls⟩ := List.forall_mem_cons.mp h
      exact .silent (silent_iff.mpr hl) (ih hls)

theorem not_allBlank_of_continued {ls ks : List (List Char)} (h : Continued ls ks) :
    ∀ k ∈ ks, ¬ AllBlank k := by
  induction h with
  | nil =>
    intro k hk
    exact absurd hk List.not_mem_nil
  | silent _ _ ih => exact ih
  | line hl hk _ ih =>
    intro j hj
    rcases List.mem_cons.mp hj with rfl | hj
    · exact hk.not_allBlank hl
    · exact ih j hj

/-! ## What a reader finds is a division -/

/-- The lines `block` start a declaration, and the call in it is open behind them. -/
inductive Opened : List (List Char) → OpenCall → Prop
  | mk {name head kept p t : List Char} {later kepts : List (List Char)} {call : OpenCall}
      (hname : '=' ∉ name) (hfirst : ¬ Silent (name ++ '=' :: head)) (hkept : Bare head kept)
      (hlater : Continued later kepts) (hopen : kept = p ++ '(' :: t) (hplain : Plain p)
      (hwalk : walk (1, .outside) (together t kepts) = some (call.depth, .outside))
      (hstart : call.start = trim (name ++ '=' :: kept))
      (hparts : call.later.reverse = (kepts.map trim).filter (· ≠ [])) :
      Opened ((name ++ '=' :: head) :: later) call

theorem Opened.silent {block : List (List Char)} {call : OpenCall} (h : Opened block call)
    {line : List Char} (hl : Silent line) : Opened (block ++ [line]) call := by
  cases h with
  | @mk name head kept p t later kepts _ hname hfirst hkept hlater hopen hplain hwalk hstart
      hparts =>
    have hc := continued_append hlater (.silent hl .nil)
    rw [List.append_nil] at hc
    exact .mk hname hfirst hkept hc hopen hplain hwalk hstart hparts

theorem step_newline (d : Nat) : step (d, .outside) '\n' = some (d, .outside) := rfl

/-- A walk through the lines of a call goes on with the next line. -/
theorem walk_together_concat {d m e : Nat} {t k : List Char} {ks : List (List Char)}
    (h : walk (d, .outside) (together t ks) = some (m, .outside))
    (hk : walk (m, .outside) k = some (e, .outside)) :
    walk (d, .outside) (together t (ks ++ [k])) = some (e, .outside) := by
  rw [together_concat, walk_append, h, Option.bind_some, walk_cons, step_newline,
    Option.bind_some, hk]

/-- **A line that starts a call and leaves it open.** -/
theorem opened_startLine {n : Nat} {line : List Char} {call : OpenCall} (hl : ¬ Silent line)
    (h : startLine n line = .ok (.inr call)) : Opened [line] call ∧ call.line = n := by
  unfold startLine at h
  split at h
  · simp at h
  · rename_i name value hc
    obtain ⟨rfl, hname⟩ := cut?_eq_some_iff.mp hc
    split at h
    · simp at h
    · simp at h
    · simp at h
    · rename_i d kept hs
      obtain ⟨hb, hw⟩ := scan_pending_iff.mp hs
      obtain rfl := Sum.inr.inj (Except.ok.inj h)
      obtain ⟨p, t, ht, hp, hw⟩ := exists_open hw
      refine ⟨.mk hname hl hb .nil ht hp ?_ rfl rfl, rfl⟩
      rw [together, List.flatMap_nil, List.append_nil, hw]

/-- **A line that is a declaration.** -/
theorem declares_startLine {n : Nat} {line : List Char} {d : Declaration} (hl : ¬ Silent line)
    (h : startLine n line = .ok (.inl d)) :
    ∃ text, Declares [line] text ∧ d = ⟨String.ofList text, n⟩ := by
  unfold startLine at h
  split at h
  · simp at h
  · rename_i name value hc
    obtain ⟨rfl, hname⟩ := cut?_eq_some_iff.mp hc
    split at h
    · simp at h
    · rename_i kept hs
      obtain rfl := Sum.inl.inj (Except.ok.inj h)
      obtain ⟨a, rest, rfl, hw, hr, hb⟩ := scan_closed_cases hs
      obtain ⟨p, b, rfl, hp, hw⟩ := exists_open hw
      refine ⟨_, .mk hname hl hb .nil ?_ hp (balanced_of_walk hw) hr ?_, ?_⟩
      · rw [together, List.flatMap_nil, List.append_nil, List.append_assoc]
      · exact ⟨b ++ ')' :: rest, by simp⟩
      · have ht := trim_closing hr (name ++ '=' :: (p ++ '(' :: b))
        simp only [List.append_assoc, List.cons_append] at ht
        rw [collapsed_eq, List.map_nil, List.filter_nil, collapse, List.intercalate_singleton]
        simp only [List.append_assoc, List.cons_append, ht]
    · simp at h
    · simp at h

/-- **A line that continues a call and leaves it open.** -/
theorem opened_continueLine {block : List (List Char)} {call call' : OpenCall} {n : Nat}
    {line : List Char} (ho : Opened block call) (hl : ¬ Silent line)
    (h : call.continueLine n line = .ok (.inr call')) :
    Opened (block ++ [line]) call' ∧ call'.line = call.line := by
  unfold OpenCall.continueLine at h
  split at h
  · simp at h
  · simp at h
  · rename_i d kept hs
    obtain ⟨hb, hw⟩ := scan_pending_iff.mp hs
    obtain rfl := Sum.inr.inj (Except.ok.inj h)
    cases ho with
    | mk hname hfirst hkept hlater hopen hplain hwalk hstart hparts =>
      refine ⟨.mk hname hfirst hkept (continued_append hlater (.line hl hb .nil)) hopen hplain
        (walk_together_concat hwalk hw) ?_ ?_, push_line call _⟩
      · rw [push_start, hstart]
      · rw [push_later, hparts, List.map_append, List.filter_append]
        rfl

/-- **A line that closes a call.** -/
theorem declares_continueLine {block : List (List Char)} {call : OpenCall} {n : Nat}
    {line : List Char} {d : Declaration} (ho : Opened block call) (hl : ¬ Silent line)
    (h : call.continueLine n line = .ok (.inl d)) :
    ∃ text, Declares (block ++ [line]) text ∧ d = ⟨String.ofList text, call.line⟩ := by
  unfold OpenCall.continueLine at h
  split at h
  · simp at h
  · rename_i kept hs
    obtain rfl := Sum.inl.inj (Except.ok.inj h)
    obtain ⟨a, rest, rfl, hw, hr, hb⟩ := scan_closed_cases hs
    cases ho with
    | @mk name head kept p t later kepts _ hname hfirst hkept hlater hopen hplain hwalk hstart
        hparts =>
      have hbal := balanced_of_walk (walk_together_concat hwalk hw)
      refine ⟨_, .mk hname hfirst hkept (continued_append hlater (.line hl hb .nil)) ?_ hplain
        hbal hr ?_, ?_⟩
      · rw [hopen, together_concat, together_append, together_concat]
        simp [together]
      · exact ⟨t, by rw [hopen]; simp⟩
      · rw [OpenCall.finish, push_start, push_line, push_later, hparts, hstart, collapsed_eq,
          List.map_append, List.filter_append, ← trim_closing hr]
        rfl
  · simp at h

/-- The lines that a reader with this state has not made a declaration of yet. -/
def Consumed (n : Nat) (block : List (List Char)) : Option OpenCall → Prop
  | none => block = []
  | some call => Opened block call ∧ call.line = n

/-- **What a step finishes is a declaration.** -/
theorem declares_readLine {n : Nat} {block : List (List Char)} {state : Option OpenCall}
    {line : List Char} {d : Declaration} (hs : Consumed n block state) (hl : ¬ Silent line)
    (h : readLine state (n + block.length) line = .ok (.inl d)) :
    ∃ text, Declares (block ++ [line]) text ∧ d = ⟨String.ofList text, n⟩ := by
  cases state with
  | none =>
    obtain rfl := hs
    exact declares_startLine hl h
  | some call =>
    obtain ⟨ho, rfl⟩ := hs
    exact declares_continueLine ho hl h

/-- **What a step leaves open is described by the lines read.** -/
theorem consumed_readLine {n : Nat} {block : List (List Char)} {state : Option OpenCall}
    {line : List Char} {call : OpenCall} (hs : Consumed n block state) (hl : ¬ Silent line)
    (h : readLine state (n + block.length) line = .ok (.inr call)) :
    Consumed n (block ++ [line]) (some call) := by
  cases state with
  | none =>
    obtain rfl := hs
    exact opened_startLine hl h
  | some call' =>
    obtain ⟨ho, rfl⟩ := hs
    exact opened_continueLine ho hl h

/-- **What a reader goes through is a division**, and behind it the lines of the call that it leaves
open. -/
theorem cut_of_reads {n : Nat} {block ls : List (List Char)} {state state' : Option OpenCall}
    {ds : List Declaration} (hs : Consumed n block state)
    (h : Reads state (number (n + block.length) ls) ds state') :
    ∃ a block', block ++ ls = a ++ block' ∧ Cut n a ds ∧
      Consumed (n + a.length) block' state' := by
  induction ls generalizing n block state ds with
  | nil =>
    cases h
    exact ⟨[], block, List.append_nil block, .nil n, hs⟩
  | cons l ls ih =>
    have happ : block ++ l :: ls = block ++ [l] ++ ls := by simp
    have hlen : n + block.length + 1 = n + (block ++ [l]).length := by simp [Nat.add_assoc]
    rw [number_cons, hlen] at h
    cases h with
    | void hv h =>
      have hl := silent_iff.mpr hv
      cases state with
      | none =>
        obtain rfl := hs
        obtain ⟨a, block', rfl, hc, hs'⟩ := ih (show Consumed (n + 1) [] none from rfl) h
        rw [Nat.add_assoc, Nat.add_comm 1] at hs'
        exact ⟨l :: a, block', rfl, .silent hl hc, hs'⟩
      | some call =>
        rw [happ]
        exact ih (show Consumed n (block ++ [l]) (some call) from ⟨hs.1.silent hl, hs.2⟩) h
    | finished hv hr h =>
      obtain ⟨text, ht, rfl⟩ := declares_readLine hs (not_silent_iff.mpr hv) hr
      obtain ⟨a, block', rfl, hc, hs'⟩ :=
        ih (show Consumed (n + (block ++ [l]).length) [] none from rfl) h
      rw [Nat.add_assoc, ← List.length_append] at hs'
      exact ⟨block ++ [l] ++ a, block', by simp, .declaration ht hc, hs'⟩
    | opened hv hr h =>
      rw [happ]
      exact ih (consumed_readLine hs (not_silent_iff.mpr hv) hr) h

/-- **What a reader finds is a division.** -/
theorem cut_of_readLines {n : Nat} {ls : List (List Char)} {ds : List Declaration}
    (h : (readLines none (number n ls)).toExcept = .ok ds) : Cut n ls ds := by
  have hr := reads_of_readLines (Progress.eq_of_toExcept_eq_ok h)
  obtain ⟨a, block, hls, hc, hb⟩ := cut_of_reads (show Consumed n [] none from rfl) hr
  obtain rfl : block = [] := hb
  rw [List.nil_append, List.append_nil] at hls
  rwa [hls]

/-! ## A division is found -/

theorem readLines_silent {state : Option OpenCall} {n : Nat} {ls : List (List Char)}
    (h : Continued ls []) (ms : List (List Char)) :
    readLines state (number n (ls ++ ms)) = readLines state (number (n + ls.length) ms) := by
  induction ls generalizing n with
  | nil => rfl
  | cons l ls ih =>
    cases h with
    | silent hl h =>
      rw [List.cons_append, number_cons, readLines_void (silent_iff.mp hl), ih h,
        List.length_cons, Nat.add_assoc, Nat.add_comm 1]

theorem flatMap_newline_ne {ks : List (List Char)} {c : Char} {s : List Char} (hc : c ≠ '\n') :
    ks.flatMap ('\n' :: ·) ≠ c :: s := by
  cases ks with
  | nil => simp
  | cons k ks =>
    intro h
    exact hc (List.cons.inj h).1.symm

/-- Where a call that ends in the lines of `k` and `ks` ends: in `k` or behind it. -/
theorem split_line {d : Nat} {k v rest : List Char} {ks : List (List Char)} (hk : Lexed k)
    (h : k ++ ks.flatMap ('\n' :: ·) = v ++ ')' :: rest)
    (hw : walk (d, .outside) v = some (1, .outside)) :
    (∃ r, k = v ++ ')' :: r ∧ rest = r ++ ks.flatMap ('\n' :: ·)) ∨
    ∃ m v', ks.flatMap ('\n' :: ·) = v' ++ ')' :: rest ∧
      walk (d, .outside) k = some (m, .outside) ∧ walk (m, .outside) v' = some (1, .outside) := by
  rcases List.append_eq_append_iff.mp h with ⟨v', rfl, hks⟩ | ⟨r, rfl, hr⟩
  · obtain ⟨⟨m, q⟩, hwk, hwv⟩ := walk_append_eq_some_iff.mp hw
    -- a line ends in no literal, so the walk can be cut behind it
    have hq : q = .outside := by rw [walk_quoting hwk, after_lexed hk]
    subst hq
    exact Or.inr ⟨m, v', hks, hwk, hwv⟩
  · cases r with
    | nil => exact absurd hr.symm (flatMap_newline_ne (by decide))
    | cons c r =>
      rw [List.cons_append, List.cons.injEq] at hr
      obtain ⟨rfl, hr⟩ := hr
      exact Or.inl ⟨r, rfl, hr⟩

/-- Nothing is kept behind the end of a call. -/
theorem eq_nil_of_allBlank_append {r : List Char} {ls ks : List (List Char)}
    (hc : Continued ls ks) (h : AllBlank (r ++ ks.flatMap ('\n' :: ·))) : ks = [] := by
  cases ks with
  | nil => rfl
  | cons k ks =>
    refine absurd (fun c hm => ?_) (not_allBlank_of_continued hc k List.mem_cons_self)
    exact h c (List.mem_append_right r (List.mem_append_left _ (List.mem_cons_of_mem _ hm)))

/-- **The later lines of a declaration are read to its end.** -/
theorem readLines_continued {later kepts : List (List Char)} (hc : Continued later kepts)
    {call : OpenCall} {n : Nat} {v rest : List Char}
    (hcall : kepts.flatMap ('\n' :: ·) = v ++ ')' :: rest)
    (hw : walk (call.depth, .outside) v = some (1, .outside)) (hr : AllBlank rest)
    (ls : List (List Char)) :
    readLines (some call) (number n (later ++ ls)) =
      .cons ⟨String.ofList (collapse call.start
          (call.later.reverse ++ (kepts.map trim).filter (· ≠ []))), call.line⟩
        (readLines none (number (n + later.length) ls)) := by
  induction hc generalizing call n v with
  | nil => simp at hcall
  | @silent l later kepts hl hc ih =>
    rw [List.cons_append, number_cons, readLines_void (silent_iff.mp hl), ih hcall hw,
      List.length_cons, Nat.add_assoc, Nat.add_comm 1]
  | @line l k later kepts hl hk hc ih =>
    have hv := not_silent_iff.mp hl
    have hlen : n + (l :: later).length = n + 1 + later.length := by
      rw [List.length_cons, Nat.add_assoc, Nat.add_comm 1]
    rw [List.cons_append, number_cons, hlen]
    cases v with
    | nil => exact absurd (List.cons.inj hcall).1 (by decide)
    | cons c v =>
      rw [List.flatMap_cons, List.cons_append, List.cons_append, List.cons.injEq] at hcall
      obtain ⟨rfl, hcall⟩ := hcall
      rw [walk_cons, step_newline, Option.bind_some] at hw
      rcases split_line hk.lexed hcall hw with ⟨r, rfl, rfl⟩ | ⟨m, v', hks, hwk, hwv⟩
      · obtain rfl := eq_nil_of_allBlank_append hc hr
        have hs := scan_closed_iff.mpr ⟨hw, r, hr.of_append_left, hk⟩
        have hread : readLine (some call) n l = .ok (.inl (call.push (trim (v ++ [')']))).finish) :=
          continueLine_closed hs n
        rw [readLines_finished hv hread, readLines_silent hc, OpenCall.finish, push_start,
          push_line, push_later, ← trim_closing hr.of_append_left]
        rfl
      · have hs := scan_pending_iff.mpr ⟨hk, hwk⟩
        have hread : readLine (some call) n l = .ok (.inr { call.push (trim k) with depth := m }) :=
          continueLine_pending hs n
        rw [readLines_opened hv hread, ih hks hwv]
        simp only [push_start, push_line, push_later, List.map_cons]
        rw [List.append_assoc, ← List.filter_append, List.singleton_append]

/-- **The lines of a declaration are read as that declaration.** -/
theorem readLines_block {block : List (List Char)} {text : List Char} (h : Declares block text)
    (n : Nat) (ls : List (List Char)) :
    readLines none (number n (block ++ ls)) =
      .cons ⟨String.ofList text, n⟩ (readLines none (number (n + block.length) ls)) := by
  cases h with
  | @mk name head kept p b rest later kepts hname hfirst hkept hlater hcall hplain hbal hrest
      hopen =>
    have hv := not_silent_iff.mp hfirst
    have hlen : n + ((name ++ '=' :: head) :: later).length = n + 1 + later.length := by
      rw [List.length_cons, Nat.add_assoc, Nat.add_comm 1]
    have hw := walk_call hplain hbal
    rw [List.cons_append, number_cons, hlen, collapsed_eq]
    rcases split_line hkept.lexed hcall hw with ⟨r, rfl, rfl⟩ | ⟨m, v', hks, hwk, hwv⟩
    · obtain rfl := eq_nil_of_allBlank_append hlater hrest
      have hs := scan_closed_iff.mpr ⟨hw, r, hrest.of_append_left, hkept⟩
      have hread : readLine none n (name ++ '=' :: head) =
          .ok (.inl ⟨String.ofList (trim (name ++ '=' :: (p ++ '(' :: b ++ [')']))), n⟩) :=
        startLine_closed hname hs n
      have ht := trim_closing hrest.of_append_left (name ++ '=' :: (p ++ '(' :: b))
      simp only [List.append_assoc, List.cons_append] at ht hread ⊢
      rw [readLines_finished hv hread, readLines_silent hlater, ht, List.map_nil, List.filter_nil,
        collapse, List.intercalate_singleton]
    · -- the parenthesis on the first line makes the depth positive there
      obtain ⟨t, rfl⟩ := hopen
      have hm : 0 < m := by
        rw [walk_append, walk_append, plain_walk hplain, Option.bind_some] at hwk
        exact walk_pos Nat.one_pos hwk
      obtain ⟨d, rfl⟩ : ∃ d, m = d + 1 := ⟨m - 1, by omega⟩
      have hs := scan_pending_iff.mpr ⟨hkept, hwk⟩
      have hread : readLine none n (name ++ '=' :: head) =
          .ok (.inr ⟨n, d + 1, trim (name ++ '=' :: (p ++ ['('] ++ t)), []⟩) :=
        startLine_pending hname hs n
      rw [readLines_opened hv hread, readLines_continued hlater hks hwv hrest]
      rfl

/-- **A division is found.** -/
theorem readLines_of_cut {n : Nat} {ls : List (List Char)} {ds : List Declaration}
    (h : Cut n ls ds) : (readLines none (number n ls)).toExcept = .ok ds := by
  induction h with
  | nil => rfl
  | silent hl _ ih => rw [number_cons, readLines_void (silent_iff.mp hl), ih]
  | declaration hb _ ih =>
    rw [readLines_block hb, Progress.toExcept_cons, ih]
    rfl

theorem readLines_eq_ok_iff {n : Nat} {ls : List (List Char)} {ds : List Declaration} :
    (readLines none (number n ls)).toExcept = .ok ds ↔ Cut n ls ds :=
  ⟨cut_of_readLines, readLines_of_cut⟩

/-! ## Where the declarations stand -/

/-- **Each declaration of a division has its lines there**, of which the first has its number. -/
theorem exists_block {n : Nat} {ls : List (List Char)} {ds : List Declaration} (h : Cut n ls ds) :
    ∀ d ∈ ds, ∃ a block b, ls = a ++ block ++ b ∧ d.line = n + a.length ∧
      Declares block d.text.toList := by
  induction h with
  | nil =>
    intro d hd
    exact absurd hd List.not_mem_nil
  | @silent n l ls ds _ _ ih =>
    intro d hd
    obtain ⟨a, block, b, rfl, hline, hb⟩ := ih d hd
    refine ⟨l :: a, block, b, rfl, ?_, hb⟩
    rw [hline, List.length_cons]
    omega
  | @declaration n block ls text ds hb _ ih =>
    intro d hd
    rcases List.mem_cons.mp hd with rfl | hd
    · exact ⟨[], block, ls, rfl, rfl, by rwa [String.toList_ofList]⟩
    · obtain ⟨a, block', b, rfl, hline, hb'⟩ := ih d hd
      refine ⟨block ++ a, block', b, by simp only [List.append_assoc], ?_, hb'⟩
      rw [hline, List.length_append, Nat.add_assoc]

theorem length_pos_of_declares {block : List (List Char)} {text : List Char}
    (h : Declares block text) : 0 < block.length := by
  cases h with
  | mk => exact Nat.succ_pos _

/-- **The declarations of a division start on lines with greater and greater numbers.** -/
theorem pairwise_line {n : Nat} {ls : List (List Char)} {ds : List Declaration}
    (h : Cut n ls ds) : ds.Pairwise fun d e => d.line < e.line := by
  induction h with
  | nil => exact .nil
  | silent _ _ ih => exact ih
  | @declaration n block ls text ds hb hc ih =>
    refine .cons (fun e he => ?_) ih
    obtain ⟨a, _, _, _, hline, _⟩ := exists_block hc e he
    have hpos := length_pos_of_declares hb
    change n < e.line
    omega

end Declaration

open Declaration in
/-- **A text has declarations exactly if its lines can be divided into them**, and then it has
these, each with the number of its first line. -/
theorem declarations_eq_ok_iff_cut {text : String} {ds : List Declaration} :
    declarations text = .ok ds ↔ Cut 1 (lines text.toList) ds :=
  readLines_eq_ok_iff

end DartModels
