import DartModels.Proofs.Declaration.Collapsing
import DartModels.Proofs.Field.Call

/-!
# Where the call of a declaration begins and ends

The lines of a declaration are scanned for the parenthesis that closes its call, with literals and
depth counted (`Delimits`); and what they collapse to is read as a call by its first parenthesis and
its last character. If it is read as a call, both find the same parentheses. For a callee has no
quotes, so the first parenthesis stands in no literal and is the first that the scan opens; and the
text ends with the one that closes the call. So the arguments are what stands between them, on one
line (`unwrap`), and are balanced.

Results:
* `delimits_of_declares`: how the lines of a declaration are scanned, and that the right side of its
  text is what the scans keep, on one line;
* `Delimits.unique`: the lines determine the parentheses;
* `opening_eq`: the first parenthesis of a text that is read as a call opens it;
* `arguments_delimited`: the arguments are what stands between these parentheses.
-/

namespace DartModels

open Text

/-- Lines put on one line, each trimmed, with a space between two of them. -/
def Text.unwrap (s : List Char) : List Char :=
  [' '].intercalate ((s.splitOn '\n').map trim)

namespace Declaration

/-- Lines are scanned one after another, with so many parentheses open before the first of them,
until the call is closed. Void lines are passed over, and there is nothing else behind the call. The
second list is what the scans keep. -/
inductive Scans : Nat → List (List Char) → List (List Char) → Prop
  | void {d : Nat} {l : List Char} {ls ks : List (List Char)} (hl : isVoid l = true)
      (h : Scans d ls ks) : Scans d (l :: ls) ks
  | pending {d e : Nat} {l k : List Char} {ls ks : List (List Char)} (hl : isVoid l = false)
      (hs : scan d l = .ok (.pending e k)) (h : Scans e ls ks) : Scans d (l :: ls) (k :: ks)
  | closed {d : Nat} {l k : List Char} {ls : List (List Char)} (hl : isVoid l = false)
      (hs : scan d l = .ok (.closed k)) (h : ∀ m ∈ ls, isVoid m = true) : Scans d (l :: ls) [k]

/-- What stands behind the equals sign of a first line is scanned, and the later lines are if it
leaves the call open; with what the scans keep. -/
inductive ScansFirst (head : List Char) : List (List Char) → List Char → List (List Char) → Prop
  | pending {d : Nat} {kept : List Char} {later kepts : List (List Char)}
      (hs : scan 0 head = .ok (.pending (d + 1) kept)) (h : Scans (d + 1) later kepts) :
      ScansFirst head later kept kepts
  | closed {kept : List Char} {later : List (List Char)} (hs : scan 0 head = .ok (.closed kept))
      (h : ∀ m ∈ later, isVoid m = true) : ScansFirst head later kept []

/-- The lines of a declaration are scanned to the end of its call. What the scans keep has no
parenthesis outside of literals in `opening`, then the one that opens the call, which is open behind
`inside` and was not closed before, and then the one that closes it. -/
inductive Delimits : List (List Char) → List Char → List Char → Prop
  | mk {name head kept opening inside : List Char} {later kepts : List (List Char)}
      (hname : '=' ∉ name) (hfirst : isVoid (name ++ '=' :: head) = false)
      (hscan : ScansFirst head later kept kepts)
      (hkept : together kept kepts = opening ++ '(' :: (inside ++ [')']))
      (hopening : Plain opening)
      (hinside : walk (0, .outside) (opening ++ '(' :: inside) = some (1, .outside)) :
      Delimits ((name ++ '=' :: head) :: later) opening inside

end Declaration

/-! ## One line -/

namespace Text

theorem unwrap_of_not_mem {l : List Char} (h : '\n' ∉ l) : unwrap l = trim l := by
  rw [unwrap, List.splitOn_eq_singleton h, List.map_singleton, List.intercalate_singleton]

theorem unwrap_line {l : List Char} (h : '\n' ∉ l) (s : List Char) :
    unwrap (l ++ '\n' :: s) = trim l ++ ' ' :: unwrap s := by
  obtain ⟨m, ls, hls⟩ := List.exists_cons_of_ne_nil (List.splitOn_ne_nil '\n' s)
  rw [unwrap, unwrap, List.splitOn_append_cons_self, List.splitOn_eq_singleton h, hls]
  simp only [List.singleton_append, List.map_cons, List.intercalate_cons_cons, List.append_assoc]

theorem newline_not_mem_cons {c : Char} (hc : isBlank c = false) {t : List Char}
    (ht : '\n' ∉ t) : '\n' ∉ c :: t := by
  intro hm
  rcases List.mem_cons.mp hm with rfl | hm
  · exact absurd hc (by decide)
  · exact ht hm

/-- What stands in front of a character that is not blank, in one line, is trimmed by itself. -/
theorem unwrap_append_cons {a : List Char} {c : Char} (ha : '\n' ∉ a) (hc : isBlank c = false)
    (s : List Char) : unwrap (a ++ c :: s) = trimStart a ++ unwrap (c :: s) := by
  have htrim : ∀ t, trim (a ++ c :: t) = trimStart a ++ trim (c :: t) := by
    intro t
    have ht : trim (c :: t) = c :: trimEnd t := trim_append_cons hc [] t
    rw [trim_append_cons hc, ht]
  have hnot : ∀ t, '\n' ∉ c :: t → '\n' ∉ a ++ c :: t := fun t ht hm =>
    (List.mem_append.mp hm).elim ha ht
  induction s using induction_lines with
  | last l hl =>
    have hc' := newline_not_mem_cons hc hl
    rw [unwrap_of_not_mem hc', unwrap_of_not_mem (hnot l hc'), htrim]
  | line l s hl _ =>
    have hc' := newline_not_mem_cons hc hl
    rw [← List.cons_append, ← List.append_assoc, unwrap_line hc', unwrap_line (hnot l hc'), htrim,
      List.append_assoc]

theorem exists_unwrap_cons {c : Char} (hc : isBlank c = false) (s : List Char) :
    ∃ t, unwrap (c :: s) = c :: t := by
  have htrim : ∀ t, trim (c :: t) = c :: trimEnd t := trim_append_cons hc []
  induction s using induction_lines with
  | last l hl =>
    rw [unwrap_of_not_mem (newline_not_mem_cons hc hl), htrim]
    exact ⟨_, rfl⟩
  | line l s hl _ =>
    rw [← List.cons_append, unwrap_line (newline_not_mem_cons hc hl), htrim]
    exact ⟨_, rfl⟩

theorem exists_unwrap_concat {c : Char} (hc : isBlank c = false) (s : List Char) :
    ∃ t, unwrap (s ++ [c]) = t ++ [c] := by
  induction s using induction_lines with
  | last l hl =>
    have hn : '\n' ∉ l ++ [c] := by
      rw [List.mem_append, not_or]
      exact ⟨hl, newline_not_mem_cons hc List.not_mem_nil⟩
    rw [unwrap_of_not_mem hn, trim_append_cons hc]
    exact ⟨_, rfl⟩
  | line l s hl ih =>
    obtain ⟨t, ht⟩ := ih
    refine ⟨trim l ++ ' ' :: t, ?_⟩
    rw [List.append_assoc, List.cons_append, unwrap_line hl, ht, List.append_assoc,
      List.cons_append]

/-- A call is trimmed on one line. -/
theorem trimmed_unwrap_call {a : List Char} (ha : '\n' ∉ a) (s : List Char) :
    Trimmed (unwrap (a ++ '(' :: (s ++ [')']))) where
  head c hc := by
    obtain ⟨t, ht⟩ := exists_unwrap_cons (c := '(') (by decide) (s ++ [')'])
    rw [unwrap_append_cons ha (by decide), ht] at hc
    cases hs : trimStart a with
    | nil =>
      rw [hs] at hc
      obtain rfl := Option.some.inj hc
      decide
    | cons d u =>
      rw [hs] at hc
      obtain rfl := Option.some.inj hc
      exact head_trimStart (s := a) (by rw [hs]; rfl)
  last c hc := by
    obtain ⟨t, ht⟩ := exists_unwrap_concat (c := ')') (by decide) (a ++ '(' :: s)
    rw [← List.cons_append, ← List.append_assoc, ht, List.getLast?_concat] at hc
    obtain rfl := Option.some.inj hc
    decide

end Text

namespace Declaration

theorem unwrap_together {kept : List Char} {kepts : List (List Char)} (hn : '\n' ∉ kept)
    (hns : ∀ k ∈ kepts, '\n' ∉ k) :
    unwrap (together kept kepts) = trim kept ++ (kepts.map trim).flatMap (' ' :: ·) := by
  induction kepts generalizing kept with
  | nil => simp [together, unwrap_of_not_mem hn]
  | cons k ks ih =>
    have hcons : together kept (k :: ks) = kept ++ '\n' :: together k ks := rfl
    rw [hcons, unwrap_line hn,
      ih (hns k List.mem_cons_self) fun j hj => hns j (List.mem_cons_of_mem k hj)]
    rfl

/-! ## How the lines of a declaration are scanned -/

/-- What is kept of a line stands in it. -/
theorem Scans.exists_isPrefixOf {d : Nat} {ls ks : List (List Char)} (h : Scans d ls ks) :
    ∀ k ∈ ks, ∃ l ∈ ls, k <+: l := by
  induction h with
  | @void d l ls ks hl _ ih =>
    intro k hk
    obtain ⟨m, hm, hp⟩ := ih k hk
    exact ⟨m, List.mem_cons_of_mem l hm, hp⟩
  | @pending d e l k ls ks hl hs _ ih =>
    intro j hj
    rcases List.mem_cons.mp hj with rfl | hj
    · exact ⟨l, List.mem_cons_self, kept_isPrefixOf hs⟩
    · obtain ⟨m, hm, hp⟩ := ih j hj
      exact ⟨m, List.mem_cons_of_mem l hm, hp⟩
  | @closed d l k ls hl hs _ =>
    intro j hj
    obtain rfl := List.mem_singleton.mp hj
    exact ⟨l, List.mem_cons_self, kept_isPrefixOf hs⟩

/-- No piece that is kept goes over more than one line. -/
theorem ScansFirst.newline_not_mem {head kept : List Char} {later kepts : List (List Char)}
    (h : ScansFirst head later kept kepts) (hhead : '\n' ∉ head)
    (hlater : ∀ l ∈ later, '\n' ∉ l) : '\n' ∉ kept ∧ ∀ k ∈ kepts, '\n' ∉ k := by
  cases h with
  | pending hs h =>
    refine ⟨fun hm => hhead ((kept_isPrefixOf hs).subset hm), fun k hk hm => ?_⟩
    obtain ⟨l, hl, hp⟩ := h.exists_isPrefixOf k hk
    exact hlater l hl (hp.subset hm)
  | closed hs _ =>
    exact ⟨fun hm => hhead ((kept_isPrefixOf hs).subset hm), fun k hk => nomatch hk⟩

/-- **The later lines of a declaration are scanned to its end**, and what is kept of them is, blanks
apart, what the grammar keeps. -/
theorem scans_of_continued {later kepts : List (List Char)} (hc : Continued later kepts) {d : Nat}
    {v rest : List Char} (hcall : kepts.flatMap ('\n' :: ·) = v ++ ')' :: rest)
    (hw : walk (d, .outside) v = some (1, .outside)) (hr : AllBlank rest) :
    ∃ ks, Scans d later ks ∧ ks.flatMap ('\n' :: ·) = v ++ [')'] ∧
      ks.map trim = kepts.map trim := by
  induction hc generalizing d v with
  | nil => simp at hcall
  | silent hl _ ih =>
    obtain ⟨ks, hs, hks, ht⟩ := ih hcall hw
    exact ⟨ks, .void (silent_iff.mp hl) hs, hks, ht⟩
  | @line l k later kepts hl hk hc ih =>
    have hv := not_silent_iff.mp hl
    cases v with
    | nil => exact absurd (List.cons.inj hcall).1 (by decide)
    | cons c v =>
      rw [List.flatMap_cons, List.cons_append, List.cons_append, List.cons.injEq] at hcall
      obtain ⟨rfl, hcall⟩ := hcall
      rw [walk_cons, step_newline, Option.bind_some] at hw
      rcases split_line hk.lexed hcall hw with ⟨r, rfl, rfl⟩ | ⟨m, v', hks, hwk, hwv⟩
      · obtain rfl := eq_nil_of_allBlank_append hc hr
        have hscan := scan_closed_iff.mpr ⟨hw, r, hr.of_append_left, hk⟩
        refine ⟨[v ++ [')']], .closed hv hscan (continued_nil_iff.mp hc), by simp, ?_⟩
        rw [List.map_cons, List.map_cons, trim_closing hr.of_append_left]
      · obtain ⟨ks, hs, hks', ht⟩ := ih hks hwv
        have hscan := scan_pending_iff.mpr ⟨hk, hwk⟩
        have hv' : k ++ v' = v := by
          rw [hks, ← List.append_assoc] at hcall
          exact List.append_cancel_right hcall
        refine ⟨k :: ks, .pending hv hscan hs, ?_, by rw [List.map_cons, List.map_cons, ht]⟩
        rw [List.flatMap_cons, hks', ← hv']
        simp only [List.append_assoc, List.cons_append]

/-- **The lines of a declaration are scanned to its end**, and what is kept of them is, blanks
apart, what the grammar keeps. -/
theorem scansFirst_of_bare {head kept p t v rest : List Char} {later kepts : List (List Char)}
    (hkept : Bare head kept) (hlater : Continued later kepts)
    (hcall : together kept kepts = v ++ ')' :: rest)
    (hw : walk (0, .outside) v = some (1, .outside)) (hr : AllBlank rest) (hp : Plain p)
    (hopen : kept = p ++ '(' :: t) :
    ∃ kept' kepts', ScansFirst head later kept' kepts' ∧ together kept' kepts' = v ++ [')'] ∧
      trim kept' = trim kept ∧ kepts'.map trim = kepts.map trim := by
  rcases split_line hkept.lexed hcall hw with ⟨r, rfl, rfl⟩ | ⟨m, v', hks, hwk, hwv⟩
  · obtain rfl := eq_nil_of_allBlank_append hlater hr
    have hs := scan_closed_iff.mpr ⟨hw, r, hr.of_append_left, hkept⟩
    exact ⟨_, [], .closed hs (continued_nil_iff.mp hlater), List.append_nil _,
      (trim_closing hr.of_append_left v).symm, rfl⟩
  · obtain ⟨ks, hs, hks', ht⟩ := scans_of_continued hlater hks hwv hr
    -- the parenthesis on the first line makes the depth positive there
    have hm : 0 < m := by
      rw [hopen, walk_append, plain_walk hp, Option.bind_some] at hwk
      exact walk_pos Nat.one_pos hwk
    obtain ⟨d, rfl⟩ : ∃ d, m = d + 1 := ⟨m - 1, by omega⟩
    have hv : kept ++ v' = v := by
      rw [together, hks, ← List.append_assoc] at hcall
      exact List.append_cancel_right hcall
    refine ⟨kept, ks, .pending (scan_pending_iff.mpr ⟨hkept, hwk⟩) hs, ?_, rfl, ht⟩
    rw [together, hks', ← List.append_assoc, hv]

/-- **How a declaration is delimited.** What the scans keep of its lines is an opening, which is on
the first of them, and the call; and on one line, these are the right side of its text. -/
theorem delimits_of_declares {block : List (List Char)} {text : List Char}
    (h : Declares block text) (hn : ∀ l ∈ block, '\n' ∉ l) :
    ∃ name blanks opening inside, '=' ∉ name ∧ AllBlank blanks ∧ '\n' ∉ opening ∧
      Plain opening ∧ Balanced inside ∧ Delimits block opening inside ∧
      text = trimStart name ++ '=' ::
        (blanks ++ unwrap (opening ++ '(' :: (inside ++ [')']))) := by
  cases h with
  | @mk name head kept p b rest later kepts hname hfirst hkept hlater hcall hplain hbal hrest
      hopen =>
    obtain ⟨t, ht⟩ := hopen
    obtain ⟨kept', kepts', hscan, hkept', htrim, htrims⟩ :=
      scansFirst_of_bare hkept hlater hcall (walk_call hplain hbal) hrest hplain
        (t := t) (by rw [← ht]; simp)
    rw [List.append_assoc, List.cons_append] at hkept'
    have hline : '\n' ∉ head := fun hm =>
      hn _ List.mem_cons_self (List.mem_append_right _ (List.mem_cons_of_mem _ hm))
    obtain ⟨hn', hns'⟩ := hscan.newline_not_mem hline fun l hl => hn l (List.mem_cons_of_mem _ hl)
    have hp : '\n' ∉ p := fun hm => hline (hkept.subset (by rw [← ht]; simp [hm]))
    obtain ⟨blanks, hblanks, hs⟩ := trimStart_split kept
    refine ⟨name, blanks, p, b, hname, hblanks, hp, hplain, hbal,
      .mk hname (not_silent_iff.mp hfirst) hscan hkept' hplain (walk_call hplain hbal), ?_⟩
    -- the first piece is not blank, so that blanks at its end are not blanks at its start
    have hblank : ¬ AllBlank (trimStart kept) := by
      rw [← ht, List.append_assoc, List.singleton_append, trimStart_append_cons (by decide)]
      intro hb
      exact hb.not_mem (c := '(') (by decide) (by simp)
    have hend : trimEnd kept = blanks ++ trim kept := by
      conv => lhs; rw [hs]
      rw [trimEnd_append_of_not_allBlank hblank, trim]
    rw [collapsed_of_continued hlater, ← hkept', unwrap_together hn' hns', htrim, htrims, hend,
      List.append_assoc]

/-! ## The parentheses are determined by the lines -/

theorem Scans.unique {d : Nat} {ls ks ks' : List (List Char)} (h : Scans d ls ks)
    (h' : Scans d ls ks') : ks = ks' := by
  induction h generalizing ks' with
  | void hl _ ih =>
    cases h' with
    | void _ h' => exact ih h'
    | pending hl' | closed hl' =>
      rw [hl] at hl'
      cases hl'
  | pending hl hs _ ih =>
    cases h' with
    | void hl' =>
      rw [hl] at hl'
      cases hl'
    | pending _ hs' h' =>
      obtain ⟨rfl, rfl⟩ := Scanned.pending.inj (Except.ok.inj (hs.symm.trans hs'))
      rw [ih h']
    | closed _ hs' => cases hs.symm.trans hs'
  | closed hl hs _ =>
    cases h' with
    | void hl' =>
      rw [hl] at hl'
      cases hl'
    | pending _ hs' => cases hs.symm.trans hs'
    | closed _ hs' =>
      obtain rfl := Scanned.closed.inj (Except.ok.inj (hs.symm.trans hs'))
      rfl

theorem ScansFirst.unique {head kept kept' : List Char} {later kepts kepts' : List (List Char)}
    (h : ScansFirst head later kept kepts) (h' : ScansFirst head later kept' kepts') :
    kept = kept' ∧ kepts = kepts' := by
  cases h with
  | pending hs h =>
    cases h' with
    | pending hs' h' =>
      obtain ⟨hd, rfl⟩ := Scanned.pending.inj (Except.ok.inj (hs.symm.trans hs'))
      obtain rfl := Nat.succ.inj hd
      exact ⟨rfl, h.unique h'⟩
    | closed hs' => cases hs.symm.trans hs'
  | closed hs _ =>
    cases h' with
    | pending hs' => cases hs.symm.trans hs'
    | closed hs' _ => exact ⟨Scanned.closed.inj (Except.ok.inj (hs.symm.trans hs')), rfl⟩

/-- **The parentheses that delimit the call of a declaration are determined by its lines.** -/
theorem Delimits.unique {block : List (List Char)} {opening opening' inside inside' : List Char}
    (h : Delimits block opening inside) (h' : Delimits block opening' inside') :
    opening = opening' ∧ inside = inside' := by
  obtain @⟨name, head, kept, _, _, later, kepts, hname, _, hscan, hkept, hplain, _⟩ := h
  generalize hblock : (name ++ '=' :: head) :: later = block at h'
  obtain @⟨name', head', kept', _, _, later', kepts', hname', _, hscan', hkept', hplain', _⟩ := h'
  obtain ⟨hfirst, rfl⟩ := List.cons.inj hblock
  have hcut := cut?_append hname head
  rw [hfirst, cut?_append hname', Option.some.injEq, Prod.mk.injEq] at hcut
  obtain ⟨-, rfl⟩ := hcut
  obtain ⟨rfl, rfl⟩ := hscan.unique hscan'
  obtain ⟨hopening, hinside⟩ := eq_of_walk_append_open (plain_walk hplain 0)
    (plain_walk hplain' 0) (hkept.symm.trans hkept')
  exact ⟨hopening, List.append_cancel_right hinside⟩

end Declaration

/-! ## The call that is read -/

/-- Nothing before the parenthesis of a call is a parenthesis or starts a literal. -/
theorem Call.Dotted.plain_append {token path blanks : List Char} (h : Dotted token path)
    (hblanks : AllBlank blanks) : Declaration.Plain (path ++ blanks) := by
  have hcases : ∀ c ∈ path ++ blanks, Name.continuesWord c = true ∨ isBlank c = true ∨ c = '.' := by
    intro c hc
    rcases List.mem_append.mp hc with hc | hc
    · exact h.mem_cases c hc
    · exact Or.inr (Or.inl (hblanks c hc))
  refine Declaration.plain_of_forall fun c hc => ?_
  refine ⟨?_, ?_, ?_, ?_, ?_⟩ <;> rintro rfl <;> exact absurd (hcases _ hc) (by decide)

namespace Declaration

/-- **The first parenthesis of a text that is read as a call is the one that opens it.** -/
theorem opening_eq {token path blanks opening inside arguments : List Char}
    (hpath : Call.Dotted token path) (hblanks : AllBlank blanks) (hn : '\n' ∉ opening)
    (hopening : Plain opening)
    (h : unwrap (opening ++ '(' :: (inside ++ [')'])) =
      path ++ blanks ++ '(' :: (arguments ++ [')'])) :
    trimStart opening = path ++ blanks ∧
      unwrap ('(' :: (inside ++ [')'])) = '(' :: (arguments ++ [')']) := by
  obtain ⟨t, ht⟩ := exists_unwrap_cons (c := '(') (by decide) (inside ++ [')'])
  rw [unwrap_append_cons hn (by decide), ht] at h
  have hwalk : walk (0, .outside) (trimStart opening) = some (0, .outside) := by
    rw [walk_trimStart, plain_walk hopening]
  obtain ⟨hp, rfl⟩ :=
    eq_of_walk_append_open hwalk (plain_walk (hpath.plain_append hblanks) 0) h
  exact ⟨hp, ht⟩

/-- The arguments of a call that a walk goes into are balanced. -/
theorem balanced_arguments {token path blanks arguments : List Char}
    (hpath : Call.Dotted token path) (hblanks : AllBlank blanks)
    (h : walk (0, .outside) (path ++ blanks ++ '(' :: arguments) = some (1, .outside)) :
    Balanced arguments := by
  rw [walk_append, plain_walk (hpath.plain_append hblanks), Option.bind_some, walk_cons, step_open,
    Option.bind_some] at h
  exact balanced_of_walk h

/-- What stands behind the first equals sign. -/
theorem right_eq_of_cut {name r left right : List Char} (hname : '=' ∉ name)
    (h : cut? '=' (trimStart name ++ '=' :: r) = some (left, right)) : right = r := by
  rw [cut?_append fun hm => hname (mem_of_mem_trimStart hm), Option.some.injEq, Prod.mk.injEq] at h
  exact h.2.symm

/-- **The right side of a declaration is its call, unwrapped.** -/
theorem exists_delimits {block : List (List Char)} {text left right : List Char}
    (h : Declares block text) (hn : ∀ l ∈ block, '\n' ∉ l)
    (hcut : cut? '=' text = some (left, right)) :
    ∃ opening inside, '\n' ∉ opening ∧ Plain opening ∧ Balanced inside ∧
      Delimits block opening inside ∧
      trim right = unwrap (opening ++ '(' :: (inside ++ [')'])) := by
  obtain ⟨name, blanks, opening, inside, hname, hblanks, hno, hplain, hbal, hdel, rfl⟩ :=
    delimits_of_declares h hn
  refine ⟨opening, inside, hno, hplain, hbal, hdel, ?_⟩
  rw [right_eq_of_cut hname hcut, trim_blank_append hblanks,
    (trimmed_unwrap_call hno inside).trim_eq]

/-- The right side of a declaration is walked through to its last parenthesis. -/
theorem exists_walk {block : List (List Char)} {text left right : List Char}
    (h : Declares block text) (hcut : cut? '=' text = some (left, right)) :
    ∃ v, trim right = v ++ [')'] ∧ walk (0, .outside) v = some (1, .outside) := by
  obtain ⟨name, head, later, v, _, hname, _, rfl, hw⟩ := declares_split h
  refine ⟨trimStart v, ?_, by rw [walk_trimStart, hw]⟩
  rw [right_eq_of_cut hname hcut, trim_append_cons (by decide)]
  rfl

end Declaration

open Declaration in
/-- **The scan of a declaration and the reading of its call find the same parentheses.** Let a
declaration of a text have a right side that is read as a call. Its lines are scanned to the end of
a call: in what the scans keep, the first parenthesis stands behind the callee, and what stands
between it and the one that closes the call is balanced. The arguments are what stands between these
two, on one line, and they are balanced too. -/
theorem arguments_delimited {text : String} {ds : List Declaration} {d : Declaration}
    {left right : List Char} {call : Call} (h : declarations text = .ok ds) (hd : d ∈ ds)
    (hcut : cut? '=' (trim d.text.toList) = some (left, right))
    (hcall : Call.ofText? (trim right) = some call) :
    ∃ before block behind opening inside path blanks,
      lines text.toList = before ++ block ++ behind ∧ d.line = before.length + 1 ∧
      Delimits block opening inside ∧ Balanced inside ∧
      Call.Dotted call.token path ∧ AllBlank blanks ∧
      trim right = path ++ blanks ++ '(' :: (call.arguments ++ [')']) ∧
      trimStart opening = path ++ blanks ∧
      unwrap ('(' :: (inside ++ [')'])) = '(' :: (call.arguments ++ [')']) ∧
      Balanced call.arguments := by
  obtain ⟨before, block, behind, hlines, hline, hb⟩ := exists_block (readLines_eq_ok_iff.mp h) d hd
  have hn : ∀ l ∈ block, '\n' ∉ l := fun l hl => not_mem_of_mem_lines (s := text.toList) (by
    rw [hlines]
    exact List.mem_append_left behind (List.mem_append_right before hl))
  rw [(collapsed_of_mem h d hd).trimmed.trim_eq] at hcut
  obtain ⟨opening, inside, hno, hplain, hbal, hdel, hunwrap⟩ := exists_delimits hb hn hcut
  obtain ⟨v, hv, hw⟩ := exists_walk hb hcut
  obtain ⟨token, arguments⟩ := call
  have hiscall := (Call.ofText?_eq_some_iff (trimmed_trim right)).mp hcall
  generalize trim right = r at hiscall hunwrap hv ⊢
  obtain @⟨path, blanks, hpath, hblanks⟩ := hiscall
  obtain ⟨hopening, harguments⟩ := opening_eq hpath hblanks hno hplain hunwrap.symm
  refine ⟨before, block, behind, opening, inside, path, blanks, hlines, ?_, hdel, hbal, hpath,
    hblanks, rfl, hopening, harguments, balanced_arguments hpath hblanks ?_⟩
  · rw [hline, Nat.add_comm]
  · rw [← List.cons_append, ← List.append_assoc] at hv
    rwa [List.append_cancel_right hv]

open Declaration in
/-- A call on four lines, with a parenthesis in a comment, one in a literal and one inside. -/
theorem arguments_delimited_lines :
    declarations "\na = m .F( # (\n  '#)',\r\n# )\n  g(1)\n) # )" =
        .ok [⟨"a = m .F( '#)', g(1) )", 2⟩] ∧
      ∃ block opening inside, Delimits block opening inside ∧ Balanced inside ∧
        trimStart opening = "m .F".toList ∧
        unwrap ('(' :: (inside ++ [')'])) = "( '#)', g(1) )".toList ∧
        Balanced " '#)', g(1) ".toList := by
  have h : declarations "\na = m .F( # (\n  '#)',\r\n# )\n  g(1)\n) # )" =
      .ok [⟨"a = m .F( '#)', g(1) )", 2⟩] := rfl
  have hcut : cut? '=' (trim "a = m .F( '#)', g(1) )".toList) =
      some ("a ".toList, " m .F( '#)', g(1) )".toList) := by decide
  have hcall : Call.ofText? (trim " m .F( '#)', g(1) )".toList) =
      some ⟨['F'], " '#)', g(1) ".toList⟩ := by decide
  obtain ⟨_, block, _, opening, inside, path, blanks, _, _, hdel, hbal, _, _, hright, hopening,
    hone, harguments⟩ := arguments_delimited h List.mem_cons_self hcut hcall
  have happ : "m .F".toList ++ "( '#)', g(1) )".toList =
      path ++ blanks ++ "( '#)', g(1) )".toList := hright
  have hpath : "m .F".toList = path ++ blanks := List.append_cancel_right happ
  exact ⟨h, block, opening, inside, hdel, hbal, hopening.trans hpath.symm, hone, harguments⟩

end DartModels
