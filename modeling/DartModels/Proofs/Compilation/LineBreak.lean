import DartModels.Proofs.Compilation.Append
import DartModels.Proofs.Declaration.Collapsing
import DartModels.Proofs.Field.Call

/-!
# Declarations on several lines

A declaration on one line may be broken inside its call, outside of literals. Whatever blanks and
comments are put there, the broken declaration collapses to the same text as before, with a space in
place of the blanks at the break. So it has the same name and the same callee; and its first
argument, on which a reference depends, is the same unless the break is strictly inside of it.

Results:
* `declarations_single`, `declarations_lineBreak`: the declaration on one line and on several;
* `ofText_lineBreak`: both are read as the same field, or have the same error;
* `compile_lineBreak`: both compile to the same.
-/

namespace DartModels

open Text

/-- What may be put inside a call to break its line: blanks or a comment on the line in front,
blank lines and comments, and the blanks before what follows. -/
structure LineBreak where
  behind : List Char
  between : List (List Char)
  indentation : List Char
  behind_void : isVoid behind = true
  between_void : ∀ l ∈ between, isVoid l = true
  indentation_blank : AllBlank indentation
  behind_line : '\n' ∉ behind
  between_line : ∀ l ∈ between, '\n' ∉ l
  indentation_line : '\n' ∉ indentation

/-- The text of a line break. -/
def LineBreak.text (b : LineBreak) : List Char :=
  b.behind ++ '\n' :: (unlines b.between ++ b.indentation)

/-- The place behind `front` in the value of a declaration, which is what follows its first equals
sign, is strictly inside the first argument of a reference. -/
def BreaksReference (front : List Char) (d : Declaration) : Prop :=
  ∃ name value path before behind, cut? '=' d.text.toList = some (name, value) ∧
    front = path ++ '(' :: before ∧ '(' ∉ path ∧
    Call.ofText? (trim value) = some ⟨DartType.referenceToken.toList, before ++ behind⟩ ∧
    Call.InsideFirst before behind

/-- The parts of a broken reference are determined by its text and the place. -/
theorem BreaksReference.insideFirst {front name value path before behind token : List Char}
    {d : Declaration} (h : BreaksReference front d)
    (hvalue : cut? '=' d.text.toList = some (name, value))
    (hplace : cut? '(' front = some (path, before))
    (hcall : Call.ofText? (trim value) = some ⟨token, before ++ behind⟩) :
    Call.InsideFirst before behind := by
  obtain ⟨name', value', path', before', behind', hvalue', hfront, hpath, hcall', hinside⟩ := h
  rw [hfront, cut?_append hpath] at hplace
  obtain ⟨rfl, rfl⟩ := Prod.mk.inj (Option.some.inj hplace)
  obtain ⟨rfl, rfl⟩ := Prod.mk.inj (Option.some.inj (hvalue'.symm.trans hvalue))
  have harguments : before' ++ behind' = before' ++ behind :=
    congrArg Call.arguments (Option.some.inj (hcall'.symm.trans hcall))
  rwa [List.append_cancel_left harguments] at hinside

namespace Declaration

theorem readLine_congr {l m : List Char} (h : trim l = trim m) (state : Option OpenCall) (n : Nat) :
    readLine state n l = readLine state n m := by
  rw [← readLine_trim, h, readLine_trim]

/-! ## The declaration on one line -/

theorem scan_of_startLine {name value : List Char} {n : Nat} {d : Declaration} (hname : '=' ∉ name)
    (h : startLine n (name ++ '=' :: value) = .ok (.inl d)) :
    ∃ kept, scan 0 value = .ok (.closed kept) ∧
      d = ⟨String.ofList (trim (name ++ '=' :: kept)), n⟩ := by
  simp only [startLine, cut?_append hname] at h
  split at h
  · cases h
  · rename_i kept hs
    exact ⟨kept, hs, (Sum.inl.inj (Except.ok.inj h)).symm⟩
  · cases h
  · cases h

/-- A scan of what follows a walk that opens a call closes this call, if it does so from the start
of the walk. -/
theorem scan_rest {front rest kept : List Char} {d k : Nat}
    (hopen : walk (d, .outside) front = some (k, .outside))
    (h : scan d (front ++ rest) = .ok (.closed kept)) :
    ∃ a, kept = front ++ (a ++ [')']) ∧ scan k rest = .ok (.closed (a ++ [')'])) := by
  have hscan : scan d (front ++ rest) = (scan k rest).map (.prepend front) :=
    scanFrom_append hopen rest
  rw [h] at hscan
  cases hs : scan k rest with
  | error f =>
    rw [hs] at hscan
    cases hscan
  | ok r =>
    rw [hs] at hscan
    cases r with
    | pending m kept => cases hscan
    | closed kept' =>
      obtain ⟨a, t, rfl, _⟩ := scan_eq_closed_iff.mp hs
      exact ⟨a, Scanned.closed.inj (Except.ok.inj hscan), rfl⟩

/-- **A declaration on one line that is open behind `front`** is closed in what follows. -/
theorem declarations_single {name front rest : List Char} {d : Declaration} {k : Nat}
    (hname : '=' ∉ name) (hline : '\n' ∉ name ++ '=' :: (front ++ rest))
    (hd : declarations (String.ofList (name ++ '=' :: (front ++ rest))) = .ok [d])
    (hopen : walk (0, .outside) front = some (k, .outside)) :
    isVoid (name ++ '=' :: (front ++ rest)) = false ∧
      ∃ a, scan k rest = .ok (.closed (a ++ [')'])) ∧
        d = ⟨String.ofList (trim (name ++ '=' :: (front ++ (a ++ [')'])))), 1⟩ := by
  have hne : name ++ '=' :: (front ++ rest) ≠ [] := by simp
  have hread : readLines none [(1, name ++ '=' :: (front ++ rest))] = ⟨[d], none⟩ := by
    have hr := Progress.eq_of_toExcept_eq_ok hd
    rwa [readDeclarations, numberedLines_eq, String.toList_ofList, lines_of_not_mem hline,
      if_neg hne] at hr
  cases reads_of_readLines hread with
  | void hv h => cases h
  | opened hv hr h => cases h
  | finished hv hr h =>
    obtain ⟨kept, hs, hd⟩ := scan_of_startLine hname hr
    obtain ⟨a, hkept, ha⟩ := scan_rest hopen hs
    exact ⟨hv, a, ha, by rw [hd, hkept]⟩

/-! ## The declaration on several lines -/

/-- What is void behind a part that a scan can pass is not kept, blanks apart. -/
theorem scan_append_void {front behind : List Char} {d k : Nat}
    (hfront : walk (d, .outside) front = some (k, .outside)) (hb : isVoid behind = true) :
    ∃ blanks, AllBlank blanks ∧ scan d (front ++ behind) = .ok (.pending k (front ++ blanks)) := by
  obtain ⟨blanks, u, rfl, hblanks, hu⟩ := void_split hb
  refine ⟨blanks, hblanks, scan_eq_pending_iff.mpr ⟨?_, u, (List.append_assoc _ _ _).symm, hu⟩⟩
  rw [walk_append, hfront, Option.bind_some, walk_allBlank hblanks]

theorem not_void_of_scan_closed {line kept : List Char} {d : Nat}
    (h : scan d line = .ok (.closed kept)) : isVoid line = false := by
  cases hv : isVoid line with
  | false => rfl
  | true =>
    obtain ⟨blanks, _, hs⟩ := scan_append_void (walk_nil (d, .outside)) hv
    rw [List.nil_append, h] at hs
    cases hs

theorem finish_push {call : OpenCall} {part : List Char} (hlater : call.later = [])
    (hpart : part ≠ []) :
    (call.push part).finish = ⟨String.ofList (call.start ++ ' ' :: part), call.line⟩ := by
  have hl := push_later call part
  rw [hlater, List.filter_cons_of_pos (by simpa using hpart)] at hl
  rw [OpenCall.finish, push_start, push_line, hl, collapse_eq_flatMap]
  simp

theorem lines_lineBreak {front rest : List Char} (hfront : '\n' ∉ front) (hrest : '\n' ∉ rest)
    (hne : rest ≠ []) (b : LineBreak) :
    lines (front ++ (b.text ++ rest)) =
      chomp (front ++ b.behind) :: (b.between.map chomp ++ [b.indentation ++ rest]) := by
  have hbehind : '\n' ∉ front ++ b.behind := by
    rw [List.mem_append, not_or]
    exact ⟨hfront, b.behind_line⟩
  have hlast : '\n' ∉ b.indentation ++ rest := by
    rw [List.mem_append, not_or]
    exact ⟨b.indentation_line, hrest⟩
  have htext : front ++ (b.text ++ rest) =
      front ++ b.behind ++ '\n' :: (unlines b.between ++ (b.indentation ++ rest)) := by
    simp [LineBreak.text]
  rw [htext, lines_append_chomp hbehind, lines_unlines_append b.between_line,
    lines_of_not_mem hlast, if_neg (by simp [hne])]

/-- The lines of a broken declaration: one that opens a call, void ones, and one that closes it. -/
theorem readLines_lineBreak {first last a : List Char} {call : OpenCall}
    {between : List (List Char)} (hfirst : isVoid first = false)
    (hopened : readLine none 1 first = .ok (.inr call))
    (hbetween : ∀ l ∈ between, isVoid l = true) (hlater : call.later = [])
    (hlast : scan call.depth last = .ok (.closed (a ++ [')']))) :
    readLines none (number 1 (first :: (between ++ [last]))) =
      ⟨[⟨String.ofList (call.start ++ ' ' :: (trimStart a ++ [')'])), call.line⟩], none⟩ := by
  have hclosed : ∀ n, readLine (some call) n last =
      .ok (.inl ⟨String.ofList (call.start ++ ' ' :: (trimStart a ++ [')'])), call.line⟩) := by
    intro n
    have hpart : trim (a ++ [')']) = trimStart a ++ [')'] := trim_append_cons (by decide) a []
    rw [readLine, continueLine_closed hlast, finish_push hlater (by simp [hpart]), hpart]
  rw [number_cons, readLines_opened hfirst hopened,
    readLines_silent (continued_nil_iff.mpr hbetween), number_cons,
    readLines_finished (not_void_of_scan_closed hlast) (hclosed _)]
  rfl

/-- **A broken declaration collapses** to the trimmed part in front of the break, a space, and the
trimmed part that follows. -/
theorem declarations_lineBreak {name front rest a : List Char} {k : Nat} (hname : '=' ∉ name)
    (hline : '\n' ∉ name ++ '=' :: (front ++ rest))
    (hvoid : isVoid (name ++ '=' :: (front ++ rest)) = false)
    (hopen : walk (0, .outside) front = some (k + 1, .outside))
    (hrest : scan (k + 1) rest = .ok (.closed (a ++ [')']))) (b : LineBreak) :
    declarations (String.ofList (name ++ '=' :: (front ++ (b.text ++ rest)))) =
      .ok [⟨String.ofList (trim (name ++ '=' :: front) ++ ' ' :: (trimStart a ++ [')'])), 1⟩] := by
  obtain ⟨blanks, hblanks, hscan⟩ := scan_append_void hopen b.behind_void
  have hne : rest ≠ [] := by
    rintro rfl
    cases not_void_of_scan_closed hrest
  have hlines : lines (name ++ '=' :: (front ++ (b.text ++ rest))) =
      chomp (name ++ '=' :: (front ++ b.behind)) ::
        (b.between.map chomp ++ [b.indentation ++ rest]) := by
    have hparts : '\n' ∉ name ++ '=' :: front ∧ '\n' ∉ rest := by
      simpa [not_or, and_assoc] using hline
    have h := lines_lineBreak hparts.1 hparts.2 hne b
    simpa only [List.append_assoc, List.cons_append] using h
  have hfirst : isVoid (chomp (name ++ '=' :: (front ++ b.behind))) = false := by
    rw [isVoid_congr (trim_chomp _), isVoid_append_cons (by decide) name _ (front ++ rest), hvoid]
  have hopened : readLine none 1 (chomp (name ++ '=' :: (front ++ b.behind))) =
      .ok (.inr ⟨1, k + 1, trim (name ++ '=' :: front), []⟩) := by
    have hstart : trim (name ++ '=' :: (front ++ blanks)) = trim (name ++ '=' :: front) := by
      rw [← List.cons_append, ← List.append_assoc, trim_append_blank hblanks]
    rw [readLine_congr (trim_chomp _), readLine, startLine_pending hname hscan, hstart]
  have hbetween : ∀ l ∈ b.between.map chomp, isVoid l = true := by
    intro l hl
    obtain ⟨m, hm, rfl⟩ := List.mem_map.mp hl
    rw [isVoid_congr (trim_chomp m)]
    exact b.between_void m hm
  have hlast : scan (k + 1) (b.indentation ++ rest) =
      .ok (.closed ((b.indentation ++ a) ++ [')'])) := by
    rw [scan_blank_append b.indentation_blank, hrest, List.append_assoc]
    rfl
  have hread := readLines_lineBreak hfirst hopened hbetween rfl hlast
  rw [declarations, readDeclarations, numberedLines_eq, String.toList_ofList, hlines, hread,
    trimStart_blank_append b.indentation_blank]
  rfl

end Declaration

/-! ## The field of the declaration -/

namespace Field

open Declaration

theorem trim_append_cons_close {c : Char} (hc : isBlank c = false) (s v : List Char) :
    trim (s ++ c :: (v ++ [')'])) = trimStart s ++ c :: (v ++ [')']) := by
  rw [trim_append_cons hc, trimEnd_append_cons (by decide)]
  rfl

theorem ofText_assignment_congr {name v w : List Char} (hname : '=' ∉ name)
    (hvoid : isVoid (name ++ ['=']) = false) {line : Nat}
    (hcall : ∀ n member, ofCall n member ((Call.ofText? (trim (v ++ [')']))).getD ⟨[], []⟩) line =
      ofCall n member ((Call.ofText? (trim (w ++ [')']))).getD ⟨[], []⟩) line) (camelCase : Bool) :
    ofText (String.ofList (trim (name ++ '=' :: (v ++ [')'])))) line camelCase =
      ofText (String.ofList (trim (name ++ '=' :: (w ++ [')'])))) line camelCase := by
  have hstart : '=' ∉ trimStart name := fun h => hname (mem_of_mem_trimStart h)
  have hnot : ∀ u, isVoid (String.ofList (trim (name ++ '=' :: (u ++ [')'])))).toList = false :=
    fun u => by
      rw [String.toList_ofList, isVoid_trim, isVoid_append_cons (by decide) name _ [], hvoid]
  have hcut : ∀ u, cut? '=' (trim (String.ofList (trim (name ++ '=' :: (u ++ [')'])))).toList) =
      some (trimStart name, u ++ [')']) := fun u => by
    rw [String.toList_ofList, trim_trim, trim_append_cons_close (by decide), cut?_append hstart]
  exact ofText_congr (hnot v) (hnot w) (hcut v) (hcut w) hcall camelCase

/-- **The broken declaration is read as the same field.** -/
theorem ofText_lineBreak {name front a : List Char} {k line : Nat} (hname : '=' ∉ name)
    (hvoid : isVoid (name ++ ['=']) = false)
    (hopen : walk (0, .outside) front = some (k + 1, .outside))
    (href : ¬ BreaksReference front
      ⟨String.ofList (trim (name ++ '=' :: (front ++ (a ++ [')'])))), line⟩) (camelCase : Bool) :
    ofText (String.ofList (trim (name ++ '=' :: front) ++ ' ' :: (trimStart a ++ [')']))) line
        camelCase =
      ofText (String.ofList (trim (name ++ '=' :: (front ++ (a ++ [')']))))) line camelCase := by
  obtain ⟨path, before, hfront, hpath⟩ :
      ∃ path before, front = path ++ '(' :: before ∧ '(' ∉ path := by
    obtain ⟨p, t, rfl, _, _⟩ := exists_open hopen
    cases hc : cut? '(' (p ++ '(' :: t) with
    | none => exact absurd (List.mem_append_right p List.mem_cons_self) (cut?_eq_none_iff.mp hc)
    | some r => exact ⟨r.1, r.2, cut?_eq_some_iff.mp hc⟩
  have hstart : '(' ∉ trimStart path := fun h => hpath (mem_of_mem_trimStart h)
  have hcall : ∀ u, Call.ofText? (trim (path ++ '(' :: u ++ [')'])) =
      (Call.callee? (trimStart path)).map (⟨·, u⟩) := fun u => by
    rw [List.append_assoc, List.cons_append, trim_append_cons_close (by decide),
      Call.ofText?_append hstart]
  have hbroken : trim (name ++ '=' :: front) ++ ' ' :: (trimStart a ++ [')']) =
      trim (name ++ '=' ::
        (path ++ '(' :: (trimEnd before ++ ([' '] ++ trimStart a)) ++ [')'])) := by
    rw [hfront, trim_append_cons (by decide), trimEnd_append_cons (by decide),
      trim_append_cons_close (by decide)]
    simp
  have hwhole : front ++ (a ++ [')']) = path ++ '(' :: (before ++ a) ++ [')'] := by
    rw [hfront]
    simp
  rw [hbroken]
  rw [hwhole] at href ⊢
  refine ofText_assignment_congr hname hvoid (fun n member => ?_) camelCase
  rw [hcall, hcall]
  cases hcallee : Call.callee? (trimStart path) with
  | none => rfl
  | some token =>
    have hquoting : Quoting.outside.after before = .outside := by
      have h := walk_quoting hopen
      rw [hfront, Quoting.after_append, Call.after_of_callee? hcallee] at h
      exact h.symm
    refine ofCall_congr (fun htoken => ?_) n member line
    have hspace : AllBlank [' '] := .singleton (by decide)
    refine Call.trim_firstArgument_blanks hquoting (fun hinside => href ?_) hspace
    refine ⟨trimStart name, path ++ '(' :: (before ++ a) ++ [')'], path, before, a, ?_, hfront,
      hpath, ?_, hinside⟩
    · rw [String.toList_ofList, trim_append_cons_close (by decide),
        cut?_append fun h => hname (mem_of_mem_trimStart h)]
    · rw [hcall, hcallee, ← htoken]
      simp

end Field

/-! ## The compilation -/

/-- **A declaration broken over lines compiles as on one line.** On one line it is the only
declaration of a text; it is broken at a place that is inside its call and in no literal; and, if it
is a reference, the place is not strictly inside its first argument. Whatever comments and blank
lines stand at the break, the class and its lines, the findings and the error are the same. -/
theorem compile_lineBreak {name front rest : List Char} {d : Declaration} (hname : '=' ∉ name)
    (hline : '\n' ∉ name ++ '=' :: (front ++ rest))
    (hd : declarations (String.ofList (name ++ '=' :: (front ++ rest))) = .ok [d]) {k : Nat}
    (hopen : Declaration.walk (0, .outside) front = some (k + 1, .outside))
    (href : ¬ BreaksReference front d) (b : LineBreak) (o : Options) :
    compile (String.ofList (name ++ '=' :: (front ++ (b.text ++ rest)))) o =
      compile (String.ofList (name ++ '=' :: (front ++ rest))) o := by
  cases ho : Name.isIdentifier o.className.toList with
  | false => rw [compile_of_not_isIdentifier ho, compile_of_not_isIdentifier ho]
  | true =>
    obtain ⟨hvoid, a, hrest, rfl⟩ := Declaration.declarations_single hname hline hd hopen
    have hbroken := Declaration.declarations_lineBreak hname hline hvoid hopen hrest b
    rw [isVoid_append_cons (by decide) name _ []] at hvoid
    have hfield := Field.ofText_lineBreak hname hvoid hopen href o.camelCase
    rw [compile_of_isIdentifier ho, compile_of_isIdentifier ho, hd, hbroken]
    simp only [Except.bind, compileDeclarations, readFields, Progress.ofList, Field.ofDeclaration,
      hfield]

/-- A reference broken behind its first argument. -/
theorem compile_lineBreak_reference :
    compile "a = models.ForeignKey('X(',  # c\n\n  # z\n\tnull=(True)) # end" ⟨"M", true⟩ =
      compile "a = models.ForeignKey('X(', null=(True)) # end" ⟨"M", true⟩ := by
  have hd : declarations (String.ofList ("a ".toList ++ '=' ::
      (" models.ForeignKey('X(', ".toList ++ "null=(True)) # end".toList))) =
      .ok [⟨"a = models.ForeignKey('X(', null=(True))", 1⟩] := rfl
  have hopen : Declaration.walk (0, .outside) " models.ForeignKey('X(', ".toList =
      some (1, .outside) := rfl
  have href : ¬ BreaksReference " models.ForeignKey('X(', ".toList
      ⟨"a = models.ForeignKey('X(', null=(True))", 1⟩ := by
    have hvalue : cut? '=' "a = models.ForeignKey('X(', null=(True))".toList =
        some ("a ".toList, " models.ForeignKey('X(', null=(True))".toList) := rfl
    have hcall : Call.ofText? (trim " models.ForeignKey('X(', null=(True))".toList) =
        some ⟨"ForeignKey".toList, "'X(', ".toList ++ "null=(True)".toList⟩ := rfl
    have hplace : cut? '(' " models.ForeignKey('X(', ".toList =
        some (" models.ForeignKey".toList, "'X(', ".toList) := rfl
    intro h
    obtain ⟨blanks, left, right, hblanks, hbefore, hleft, hright, hfirst⟩ :=
      h.insideFirst hvalue hplace hcall
    cases blanks with
    | nil =>
      -- what stands in front of the break is longer than the first argument
      have hlen := congrArg List.length hfirst
      rw [List.length_append, ← List.nil_append left, ← hbefore] at hlen
      have hlong : (trim (Call.firstArgument ("'X(', ".toList ++ "null=(True)".toList))).length <
        "'X(', ".toList.length := by decide
      omega
    | cons c blanks =>
      obtain rfl : '\'' = c := (List.cons.inj hbefore).1
      exact absurd (hblanks _ List.mem_cons_self) (by decide)
  have hvoid : ∀ l ∈ ["".toList, "  # z".toList], isVoid l = true := by decide
  have hbetween : ∀ l ∈ ["".toList, "  # z".toList], '\n' ∉ l := by decide
  exact compile_lineBreak (by decide) (by decide) hd hopen href
    ⟨" # c".toList, ["".toList, "  # z".toList], "\t".toList, by decide, hvoid,
      .singleton (by decide), by decide, hbetween, by decide⟩ ⟨"M", true⟩

end DartModels
