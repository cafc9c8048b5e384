import DartModels.Proofs.Declaration.Segmentation

/-!
# Collapsing is a normal form

The text of a declaration is itself a declaration on one line, and collapses to itself. For the
trimmed parts of its lines keep the way through the call: blanks are passed at any depth, and none
of those that are trimmed away stands in a literal.

Results:
* `declares_split`: a declaration's text has the trimmed start of its first line before the first
  equals sign, and behind it a call that ends with the last character;
* `declares_self`, `collapsed_of_declares`: the text of a declaration declares itself, and is a
  trimmed line that is not void;
* `declarations_collapsed`: the texts of all declarations of a text, on a line each, are read back.
-/

namespace DartModels

open Text

namespace Declaration

theorem collapse_eq_flatMap (start : List Char) (later : List (List Char)) :
    collapse start later = start ++ later.flatMap (' ' :: ·) :=
  intercalate_cons_eq_flatMap ' ' start later

/-- No part of a line that is not silent is empty, so none is left out. -/
theorem filter_parts {ls ks : List (List Char)} (h : Continued ls ks) :
    (ks.map trim).filter (· ≠ []) = ks.map trim := by
  refine List.filter_eq_self.mpr fun k hk => ?_
  obtain ⟨j, hj, rfl⟩ := List.mem_map.mp hk
  have hb := not_allBlank_of_continued h j hj
  rw [← trim_eq_nil_iff] at hb
  exact decide_eq_true hb

theorem collapsed_of_continued {later kepts : List (List Char)} (h : Continued later kepts)
    (name kept : List Char) :
    collapsed name kept kepts =
      trimStart name ++ '=' :: (trimEnd kept ++ (kepts.map trim).flatMap (' ' :: ·)) := by
  rw [collapsed_eq, filter_parts h, collapse_eq_flatMap, trim_append_cons (by decide)]
  simp

theorem walk_trimStart (d : Nat) (s : List Char) :
    walk (d, .outside) (trimStart s) = walk (d, .outside) s := by
  obtain ⟨b, hb, hs⟩ := trimStart_split s
  rw [← walk_blank_append hb, ← hs]

theorem step_space (d : Nat) : step (d, .outside) ' ' = some (d, .outside) := rfl

/-- **The later lines of a declaration, trimmed and joined, lead the same way to its end.** -/
theorem walk_parts {later kepts : List (List Char)} (hc : Continued later kepts) {d : Nat}
    {v rest : List Char} (hcall : kepts.flatMap ('\n' :: ·) = v ++ ')' :: rest)
    (hw : walk (d, .outside) v = some (1, .outside)) (hr : AllBlank rest) :
    ∃ u, (kepts.map trim).flatMap (' ' :: ·) = u ++ [')'] ∧
      walk (d, .outside) u = some (1, .outside) := by
  induction hc generalizing d v with
  | nil => simp at hcall
  | silent _ _ ih => exact ih hcall hw
  | @line l k later kepts hl hk hc ih =>
    cases v with
    | nil => exact absurd (List.cons.inj hcall).1 (by decide)
    | cons c v =>
      rw [List.flatMap_cons, List.cons_append, List.cons_append, List.cons.injEq] at hcall
      obtain ⟨rfl, hcall⟩ := hcall
      rw [walk_cons, step_newline, Option.bind_some] at hw
      rcases split_line hk.lexed hcall hw with ⟨r, rfl, rfl⟩ | ⟨m, v', hks, hwk, hwv⟩
      · obtain rfl := eq_nil_of_allBlank_append hc hr
        refine ⟨' ' :: trimStart v, ?_, ?_⟩
        · rw [List.map_cons, trim_append_cons (by decide), trimEnd_of_allBlank hr.of_append_left]
          simp
        · rw [walk_cons, step_space, Option.bind_some, walk_trimStart, hw]
      · obtain ⟨u, hu, hwu⟩ := ih hks hwv
        refine ⟨' ' :: trim k ++ u, ?_, ?_⟩
        · rw [List.map_cons, List.flatMap_cons, hu]
          simp
        · rw [List.cons_append, walk_cons, step_space, Option.bind_some, walk_append,
            walk_trim hwk, Option.bind_some, hwu]

/-- **What a declaration collapses to**: the first line as far as its first equals sign, without the
blanks before it, and a call that ends with the last character. -/
theorem declares_split {block : List (List Char)} {text : List Char} (h : Declares block text) :
    ∃ name head later v, block = (name ++ '=' :: head) :: later ∧ '=' ∉ name ∧
      ¬ Silent (name ++ '=' :: head) ∧ text = trimStart name ++ '=' :: (v ++ [')']) ∧
      walk (0, .outside) v = some (1, .outside) := by
  cases h with
  | @mk name head kept p b rest later kepts hname hfirst hkept hlater hcall hplain hbal hrest
      hopen =>
    have hw := walk_call hplain hbal
    rw [collapsed_of_continued hlater]
    rcases split_line hkept.lexed hcall hw with ⟨r, rfl, rfl⟩ | ⟨m, v', hks, hwk, hwv⟩
    · obtain rfl := eq_nil_of_allBlank_append hlater hrest
      refine ⟨name, head, later, p ++ '(' :: b, rfl, hname, hfirst, ?_, hw⟩
      rw [trimEnd_append_cons (by decide), trimEnd_of_allBlank hrest.of_append_left]
      simp
    · obtain ⟨u, hu, hwu⟩ := walk_parts hlater hks hwv hrest
      refine ⟨name, head, later, trimEnd kept ++ u, rfl, hname, hfirst, ?_, ?_⟩
      · rw [hu, List.append_assoc]
      · rw [walk_append, walk_trimEnd hwk, Option.bind_some, hwu]

/-- A text of this form declares itself on one line. -/
theorem declares_single {name v : List Char} (hname : '=' ∉ name)
    (hv : isVoid (name ++ ['=']) = false) (hw : walk (0, .outside) v = some (1, .outside)) :
    Declares [name ++ '=' :: (v ++ [')'])] (trimStart name ++ '=' :: (v ++ [')'])) := by
  obtain ⟨p, b, rfl, hp, hwb⟩ := exists_open hw
  have hfirst : ¬ Silent (name ++ '=' :: (p ++ '(' :: b ++ [')'])) := by
    rw [not_silent_iff, isVoid_append_cons (by decide) name _ [], hv]
  have hlexed : Lexed (p ++ '(' :: b ++ [')']) :=
    (lexed_of_walk hw).append
      (.lexeme (.char (c := ')') (by decide) (by decide) (by decide)) .nil)
  have hcall : together (p ++ '(' :: b ++ [')']) [] = p ++ '(' :: b ++ ')' :: [] := by
    simp [together]
  have hd := Declares.mk hname hfirst ⟨hlexed, [], (List.append_nil _).symm, Or.inl rfl⟩ .nil
    hcall hp (balanced_of_walk hwb) AllBlank.nil ⟨b ++ [')'], by simp⟩
  have ht : collapsed name (p ++ '(' :: b ++ [')']) [] =
      trimStart name ++ '=' :: (p ++ '(' :: b ++ [')']) := by
    rw [collapsed_eq, collapse_eq_flatMap, trim_append_cons (by decide),
      trimEnd_append_cons (by decide)]
    simp
  rwa [ht] at hd

/-- **The text of a declaration declares itself.** -/
theorem declares_self {block : List (List Char)} {text : List Char} (h : Declares block text) :
    Declares [text] text := by
  obtain ⟨name, head, later, v, rfl, hname, hfirst, rfl, hw⟩ := declares_split h
  obtain ⟨b, hb, hs⟩ := trimStart_split name
  have hn : '=' ∉ trimStart name := fun hm => hname (mem_of_mem_trimStart hm)
  have hv : isVoid (trimStart name ++ ['=']) = false := by
    rw [not_silent_iff, isVoid_append_cons (by decide) name _ [], hs, List.append_assoc,
      isVoid_blank_append hb] at hfirst
    exact hfirst
  have hd := declares_single hn hv hw
  rwa [trimStart_of_head fun c hc => head_trimStart hc] at hd

/-! ## All declarations of a text -/

theorem Bare.subset {line kept : List Char} (h : Bare line kept) : kept ⊆ line := by
  obtain ⟨t, rfl, _⟩ := h.comment
  exact List.subset_append_left kept t

theorem exists_bare {ls ks : List (List Char)} (h : Continued ls ks) :
    ∀ k ∈ ks, ∃ l ∈ ls, Bare l k := by
  induction h with
  | nil =>
    intro k hk
    exact absurd hk List.not_mem_nil
  | @silent l ls ks _ _ ih =>
    intro k hk
    obtain ⟨m, hm, hb⟩ := ih k hk
    exact ⟨m, List.mem_cons_of_mem l hm, hb⟩
  | @line l j ls ks _ hb _ ih =>
    intro k hk
    rcases List.mem_cons.mp hk with rfl | hk
    · exact ⟨l, List.mem_cons_self, hb⟩
    · obtain ⟨m, hm, hb⟩ := ih k hk
      exact ⟨m, List.mem_cons_of_mem l hm, hb⟩

/-- The text of a declaration is made of its lines and of spaces. -/
theorem mem_of_declares {block : List (List Char)} {text : List Char} (h : Declares block text)
    {c : Char} (hc : c ∈ text) : c = ' ' ∨ ∃ l ∈ block, c ∈ l := by
  cases h with
  | @mk name head kept p b rest later kepts hname hfirst hkept hlater hcall hplain hbal hrest
      hopen =>
    rw [collapsed_eq, filter_parts hlater, collapse_eq_flatMap, List.mem_append,
      List.mem_flatMap] at hc
    rcases hc with hc | ⟨k, hk, hc⟩
    · refine Or.inr ⟨_, List.mem_cons_self, ?_⟩
      rcases List.mem_append.mp (mem_of_mem_trim hc) with hm | hm
      · exact List.mem_append_left _ hm
      · rcases List.mem_cons.mp hm with rfl | hm
        · exact List.mem_append_right _ List.mem_cons_self
        · exact List.mem_append_right _ (List.mem_cons_of_mem _ (hkept.subset hm))
    · rcases List.mem_cons.mp hc with rfl | hc
      · exact Or.inl rfl
      · obtain ⟨j, hj, rfl⟩ := List.mem_map.mp hk
        obtain ⟨l, hl, hb⟩ := exists_bare hlater j hj
        exact Or.inr ⟨l, List.mem_cons_of_mem _ hl, hb.subset (mem_of_mem_trim hc)⟩

/-- What a line of collapsed text looks like. -/
structure Collapsed (text : List Char) : Prop where
  declares : Declares [text] text
  newline : '\n' ∉ text
  trimmed : Trimmed text
  not_void : isVoid text = false
  last : text.getLast? = some ')'

theorem collapsed_of_declares {block : List (List Char)} {text : List Char}
    (h : Declares block text) (hn : ∀ l ∈ block, '\n' ∉ l) : Collapsed text := by
  have hself := declares_self h
  have hlast : text.getLast? = some ')' := by
    obtain ⟨name, head, later, v, _, _, _, rfl, _⟩ := declares_split h
    rw [← List.cons_append, ← List.append_assoc, List.getLast?_concat]
  have hvoid : isVoid text = false := by
    obtain ⟨name, head, later, v, hb, _, hfirst, _, _⟩ := declares_split hself
    obtain ⟨rfl, -⟩ := List.cons.inj hb
    exact not_silent_iff.mp hfirst
  refine ⟨hself, fun hm => ?_, ⟨fun c hc => ?_, fun c hc => ?_⟩, hvoid, hlast⟩
  · rcases mem_of_declares h hm with hsp | ⟨l, hl, hm⟩
    · exact absurd hsp (by decide)
    · exact hn l hl hm
  · -- the blanks before the name are gone, and the equals sign is there if the name is empty
    obtain ⟨name, head, later, v, _, _, _, rfl, _⟩ := declares_split h
    cases hs : trimStart name with
    | nil =>
      rw [hs] at hc
      obtain rfl := Option.some.inj hc
      decide
    | cons d s =>
      rw [hs] at hc
      obtain rfl := Option.some.inj hc
      exact head_trimStart (s := name) (by rw [hs]; rfl)
  · rw [hlast] at hc
    obtain rfl := Option.some.inj hc
    decide

theorem cut_texts {n : Nat} {ds : List Declaration}
    (h : ∀ d ∈ ds, Declares [d.text.toList] d.text.toList) :
    Cut n (ds.map (·.text.toList)) ((ds.zipIdx n).map fun p => { p.1 with line := p.2 }) := by
  induction ds generalizing n with
  | nil => exact .nil n
  | cons d ds ih =>
    have hd := Cut.declaration (n := n) (h d List.mem_cons_self)
      (ih (n := n + 1) fun e he => h e (List.mem_cons_of_mem d he))
    rwa [String.ofList_toList] at hd

/-- Collapsed texts, on a line each. -/
theorem lines_of_collapsed {ts : List String} (h : ∀ t ∈ ts, Collapsed t.toList) :
    lines ("\n".intercalate ts).toList = ts.map String.toList := by
  have hm : ∀ l ∈ ts.map String.toList, Collapsed l := List.forall_mem_map.mpr h
  rw [String.toList_intercalate]
  refine lines_intercalate (fun l hl => (hm l hl).newline) (fun l hl => ?_) fun l hl => ?_
  · rw [(hm l hl).last]
    decide
  · rintro rfl
    exact absurd (hm [] hl).last (by decide)

/-- The texts of declarations that a text has are collapsed. -/
theorem collapsed_of_mem {text : String} {ds : List Declaration} (h : declarations text = .ok ds) :
    ∀ d ∈ ds, Collapsed d.text.toList := by
  intro d hd
  obtain ⟨a, block, b, hls, _, hb⟩ := exists_block (readLines_eq_ok_iff.mp h) d hd
  refine collapsed_of_declares hb fun l hl => not_mem_of_mem_lines (s := text.toList) ?_
  rw [hls]
  exact List.mem_append_left b (List.mem_append_right a hl)

end Declaration

open Declaration in
/-- **Collapsing is a normal form.** The texts of the declarations of a text, each on a line of its
own, have the same declarations, on lines one, two and so on; each of them is trimmed, holds no line
feed and is not void. -/
theorem declarations_collapsed {text : String} {ds : List Declaration}
    (h : declarations text = .ok ds) :
    declarations ("\n".intercalate (ds.map (·.text))) =
        .ok ((ds.zipIdx 1).map fun p => { p.1 with line := p.2 }) ∧
      ∀ d ∈ ds, '\n' ∉ d.text.toList ∧ Trimmed d.text.toList ∧ isVoid d.text.toList = false := by
  have hc := collapsed_of_mem h
  refine ⟨?_, fun d hd => ⟨(hc d hd).newline, (hc d hd).trimmed, (hc d hd).not_void⟩⟩
  refine readLines_eq_ok_iff.mpr ?_
  rw [lines_of_collapsed (List.forall_mem_map.mpr hc), List.map_map]
  exact cut_texts fun d hd => (hc d hd).declares

/-- Two declarations, the first on four lines with a comment, a parenthesis and a number sign in a
literal, and a carriage return. -/
theorem declarations_collapsed_two :
    declarations "a = F( # (\n  '#)',\r\n# x\n)\nb = G()" =
        .ok [⟨"a = F( '#)', )", 1⟩, ⟨"b = G()", 5⟩] ∧
      declarations "a = F( '#)', )\nb = G()" =
        .ok [⟨"a = F( '#)', )", 1⟩, ⟨"b = G()", 2⟩] := by
  have h : declarations "a = F( # (\n  '#)',\r\n# x\n)\nb = G()" =
      .ok [⟨"a = F( '#)', )", 1⟩, ⟨"b = G()", 5⟩] := rfl
  exact ⟨h, (declarations_collapsed h).1⟩

end DartModels
