import DartModels.Proofs.Field.RightSide
import DartModels.Proofs.Field.TopLevel

/-!
# References to models

The model that a reference is to is what its first argument names, without blanks and one pair of
quotes around it. Nothing that follows the first argument has an influence on it, be it out of
balance, and neither has the way in which the name is quoted.

What stands in the first argument is not looked at, so that an argument with a keyword is no
exception: the keyword becomes part of the name.

Results:
* `Field.Assigns.ofText_eq`: a text with a name and a call is read as the field of the two;
* `Field.ofCall_reference`: the field of a reference is that of the model in its first argument;
* `Field.ofText_reference`: the rest of the arguments has no influence, nor have quotes;
* `Field.ofText_keyword`: a first argument with a keyword is taken for a name.
-/

namespace DartModels

open Text

/-! ## Quotes -/

namespace Name

theorem stripQuote_of_head {q : Char} {s : List Char} (h : s.head? ≠ some q) :
    stripQuote q s = none := by
  simp [stripQuote, h]

/-- Quotes of either kind are removed. -/
theorem stripQuotes_quoted {q : Char} (hq : Quoting.opens q = true) (s : List Char) :
    stripQuotes (q :: s ++ [q]) = s := by
  have hstrip : stripQuote q (q :: s ++ [q]) = some s := stripQuote_eq_some_iff.mpr rfl
  rw [Quoting.opens, Bool.or_eq_true, beq_iff_eq, beq_iff_eq] at hq
  rcases hq with rfl | rfl
  · rw [stripQuotes, hstrip]
    rfl
  · have hnone : stripQuote '\'' ('"' :: s ++ ['"']) = none := stripQuote_of_head (by simp)
    rw [stripQuotes, hnone, hstrip]
    rfl

/-- A text that starts with no quote stays as it is. -/
theorem stripQuotes_of_head {s : List Char}
    (h : ∀ c, s.head? = some c → Quoting.opens c = false) : stripQuotes s = s := by
  have hne : ∀ q, Quoting.opens q = true → s.head? ≠ some q := by
    intro q hq hs
    rw [h q hs] at hq
    cases hq
  simp [stripQuotes, stripQuote_of_head (hne '\'' rfl), stripQuote_of_head (hne '"' rfl)]

/-- Nothing is left of a text only if it is empty or a pair of quotes. -/
theorem eq_of_stripQuotes_eq_nil {s : List Char} (h : stripQuotes s = []) :
    s = [] ∨ ∃ q, Quoting.opens q = true ∧ s = [q, q] := by
  unfold stripQuotes at h
  cases hsingle : stripQuote '\'' s with
  | some t =>
    rw [hsingle] at h
    obtain rfl : t = [] := h
    exact Or.inr ⟨'\'', rfl, stripQuote_eq_some_iff.mp hsingle⟩
  | none =>
    cases hdouble : stripQuote '"' s with
    | some t =>
      rw [hsingle, hdouble] at h
      obtain rfl : t = [] := h
      exact Or.inr ⟨'"', rfl, stripQuote_eq_some_iff.mp hdouble⟩
    | none =>
      rw [hsingle, hdouble] at h
      exact Or.inl h

/-- A text of which nothing is left, once it is trimmed and has lost its quotes, has no comma. -/
theorem not_mem_of_stripQuotes_trim_eq_nil {s : List Char} (h : stripQuotes (trim s) = []) :
    ',' ∉ s := by
  obtain ⟨before, behind, hbefore, hbehind, hs⟩ := trim_split s
  have htrim : ',' ∉ trim s := by
    rcases eq_of_stripQuotes_eq_nil h with hnil | ⟨q, hq, hpair⟩
    · rw [hnil]
      exact List.not_mem_nil
    · have hne : ',' ≠ q := by
        rintro rfl
        cases hq
      simp [hpair, hne]
  rw [hs, List.mem_append, List.mem_append, not_or, not_or]
  exact ⟨⟨hbefore.not_mem (by decide), htrim⟩, hbehind.not_mem (by decide)⟩

end Name

namespace Field

/-! ## Declarations with a call -/

/-- A name that a declaration can give to a field. -/
structure IsName (name : List Char) : Prop where
  ne_nil : name ≠ []
  trimmed : Trimmed name
  not_mem : '=' ∉ name
  head : name.head? ≠ some '#'

instance (name : List Char) : Decidable (IsName name) :=
  decidable_of_iff (name ≠ [] ∧ Trimmed name ∧ '=' ∉ name ∧ name.head? ≠ some '#')
    ⟨fun ⟨hne, htrimmed, hequals, hhead⟩ => ⟨hne, htrimmed, hequals, hhead⟩,
      fun h => ⟨h.ne_nil, h.trimmed, h.not_mem, h.head⟩⟩

/-- A name, an equals sign and a call, with any blanks around the three. -/
inductive Assigns (name token arguments : List Char) : List Char → Prop
  | mk {front before behind call back : List Char} (hfront : AllBlank front)
      (hbefore : AllBlank before) (hbehind : AllBlank behind) (hback : AllBlank back)
      (hcall : Call.IsCall token arguments call) :
      Assigns name token arguments
        (front ++ (name ++ before ++ '=' :: (behind ++ call)) ++ back)

/-- **A text with a name and a call is read as the field of the two.** -/
theorem Assigns.ofText_eq {name token arguments : List Char} {text : String}
    (h : Assigns name token arguments text.toList) (hname : IsName name) {camelCase : Bool}
    (hmember : memberNameOf camelCase name ≠ []) (line : Nat) :
    ofText text line camelCase =
      (ofCall name (memberNameOf camelCase name) ⟨token, arguments⟩ line).map some := by
  generalize hs : text.toList = s at h
  obtain ⟨hfront, hbefore, hbehind, hback, hcall⟩ := h
  rename_i front before behind call back
  have hhead : (name ++ before ++ '=' :: (behind ++ call)).head? = name.head? := by
    rw [List.append_assoc, List.head?_append_of_ne_nil _ hname.ne_nil]
  have hne : call ≠ [] := by
    obtain ⟨_, _⟩ := hcall
    simp
  have hlast : (name ++ before ++ '=' :: (behind ++ call)).getLast? = call.getLast? := by
    rw [← List.cons_append, ← List.append_assoc, List.getLast?_append_of_ne_nil _ hne]
  have htrim : trim text.toList = name ++ before ++ '=' :: (behind ++ call) := by
    refine trim_eq_iff.mpr ⟨⟨fun c hc => ?_, fun c hc => ?_⟩, front, back, hfront, hback, hs⟩
    · exact hname.trimmed.head c (hhead ▸ hc)
    · exact hcall.trimmed.last c (hlast ▸ hc)
  have hvoid : isVoid text.toList = false := by
    rw [Bool.eq_false_iff, ne_eq, isVoid_iff, htrim, hhead, not_or]
    exact ⟨by simp, hname.head⟩
  have hcut : cut? '=' (trim text.toList) = some (name ++ before, behind ++ call) := by
    rw [htrim]
    refine cut?_append ?_ _
    rw [List.mem_append, not_or]
    exact ⟨hname.not_mem, hbefore.not_mem (by decide)⟩
  have hleft : trim (name ++ before) = name := by
    rw [trim_append_blank hbefore, hname.trimmed.trim_eq]
  have hright : trim (behind ++ call) = call := by
    rw [trim_blank_append hbehind, hcall.trimmed.trim_eq]
  rw [ofText_of_cut hvoid hcut (hleft.symm ▸ hname.ne_nil) (hleft.symm ▸ hmember) line, hleft,
    hright, (Call.ofText?_eq_some_iff hcall.trimmed).mpr hcall, Option.getD_some]

/-! ## References -/

/-- The field that refers to a model. -/
def referenceTo (name member model : List Char) (line : Nat) : Field :=
  ⟨String.ofList name, String.ofList member, "ForeignKey", some (String.ofList model ++ "Model"),
    .reference (String.ofList model ++ "Model"), line⟩

/-- **The field of a reference is that of the model in its first argument**, if there is any. -/
theorem ofCall_reference (name member arguments : List Char) (line : Nat) :
    ofCall name member ⟨"ForeignKey".toList, arguments⟩ line =
      if Name.stripQuotes (trim (Call.firstArgument arguments)) = [] then
        .error (.missingReference (String.ofList name))
      else .ok (referenceTo name member
        (Name.stripQuotes (trim (Call.firstArgument arguments))) line) := by
  have htoken : String.ofList "ForeignKey".toList = DartType.referenceToken := by decide
  rw [ofCall, Call.referenced, htoken, if_pos rfl]
  cases Name.stripQuotes (trim (Call.firstArgument arguments)) with
  | nil => rfl
  | cons c model => rfl

variable {name : List Char} {text : String} {camelCase : Bool}

theorem Assigns.ofText_of_model {arguments : List Char}
    (h : Assigns name "ForeignKey".toList arguments text.toList) (hname : IsName name)
    (hmember : memberNameOf camelCase name ≠ []) {model : List Char}
    (hmodel : Name.stripQuotes (trim (Call.firstArgument arguments)) = model) (hne : model ≠ [])
    (line : Nat) :
    ofText text line camelCase =
      .ok (some (referenceTo name (memberNameOf camelCase name) model line)) := by
  rw [h.ofText_eq hname hmember, ofCall_reference, hmodel, if_neg hne]
  rfl

/-- A name that a first argument can give to a model: it has no quotes and no comma. -/
structure IsModel (model : List Char) : Prop where
  ne_nil : model ≠ []
  trimmed : Trimmed model
  not_opens : ∀ c ∈ model, Quoting.opens c = false
  not_mem : ',' ∉ model

instance (model : List Char) : Decidable (IsModel model) :=
  decidable_of_iff
    (model ≠ [] ∧ Trimmed model ∧ model.any Quoting.opens = false ∧ ',' ∉ model) <| by
    simp only [List.any_eq_false, Bool.not_eq_true]
    exact ⟨fun ⟨hne, htrimmed, hopens, hcomma⟩ => ⟨hne, htrimmed, hopens, hcomma⟩,
      fun h => ⟨h.ne_nil, h.trimmed, h.not_opens, h.not_mem⟩⟩

/-- The ways to write a model's name, with any blanks around it. -/
inductive Spells (model : List Char) : List Char → Prop
  | bare {before behind : List Char} (hbefore : AllBlank before) (hbehind : AllBlank behind) :
      Spells model (before ++ model ++ behind)
  | quoted {q : Char} {before behind : List Char} (hq : q = '\'' ∨ q = '"')
      (hbefore : AllBlank before) (hbehind : AllBlank behind) :
      Spells model (before ++ (q :: model ++ [q]) ++ behind)

/-- **A name is read the same however it is written.** -/
theorem Spells.stripQuotes_eq {model argument : List Char} (h : Spells model argument)
    (hmodel : IsModel model) :
    Name.stripQuotes (trim (Call.firstArgument argument)) = model := by
  have hcomma : ',' ∉ argument := by
    cases h with
    | bare hbefore hbehind =>
      simp [hbefore.not_mem (c := ',') (by decide), hbehind.not_mem (c := ',') (by decide),
        hmodel.not_mem]
    | @quoted q _ _ hq hbefore hbehind =>
      have hne : ',' ≠ q := by
        rintro rfl
        exact absurd hq (by decide)
      simp [hbefore.not_mem (c := ',') (by decide), hbehind.not_mem (c := ',') (by decide),
        hmodel.not_mem, hne]
  rw [Call.firstArgument_of_not_mem hcomma]
  cases h with
  | bare hbefore hbehind =>
    rw [trim_append_blank hbehind, trim_blank_append hbefore, hmodel.trimmed.trim_eq]
    exact Name.stripQuotes_of_head fun c hc => hmodel.not_opens c (List.mem_of_head? hc)
  | @quoted q _ _ hq hbefore hbehind =>
    have hopens : Quoting.opens q = true := by
      rcases hq with rfl | rfl <;> rfl
    have hblank : isBlank q = false := by
      rcases hq with rfl | rfl <;> decide
    have htrimmed : Trimmed (q :: model ++ [q]) := by
      refine ⟨fun c hc => ?_, fun c hc => ?_⟩
      · rw [List.cons_append, List.head?_cons, Option.some.injEq] at hc
        rwa [← hc]
      · rw [List.getLast?_concat, Option.some.injEq] at hc
        rwa [← hc]
    rw [trim_append_blank hbehind, trim_blank_append hbefore, htrimmed.trim_eq,
      Name.stripQuotes_quoted hopens]

/-- **What a reference is to depends on its first argument only**, and not on how it is quoted. Let
a name not consist of underscores.

Whatever follows arguments that end at top level, behind a comma, has no influence on what a
reference with these arguments is read as. If they are nothing but blanks or quotes, it is an error
about the name, and if they have no comma at top level, it is to the model that they name. And a
model is named by its name in quotes of either kind or in none, with any blanks around it. -/
theorem ofText_reference (hname : IsName name) (hletter : ∃ c ∈ name, c ≠ '_')
    (camelCase : Bool) (line : Nat) :
    (∀ (argument rest : List Char) (text text' : String), Call.TopLevel argument →
      Assigns name "ForeignKey".toList argument text.toList →
      Assigns name "ForeignKey".toList (argument ++ ',' :: rest) text'.toList →
      ofText text line camelCase = ofText text' line camelCase ∧
      (Name.stripQuotes (trim argument) = [] →
        ofText text line camelCase = .error (.missingReference (String.ofList name))) ∧
      (Call.Undivided argument → Name.stripQuotes (trim argument) ≠ [] →
        ofText text line camelCase = .ok (some (referenceTo name (memberNameOf camelCase name)
          (Name.stripQuotes (trim argument)) line)))) ∧
    ∀ (model argument : List Char) (text : String), IsModel model → Spells model argument →
      Assigns name "ForeignKey".toList argument text.toList →
      ofText text line camelCase =
        .ok (some (referenceTo name (memberNameOf camelCase name) model line)) := by
  have hmember : memberNameOf camelCase name ≠ [] := by
    cases camelCase with
    | false => exact hname.ne_nil
    | true =>
      obtain ⟨c, hc, hne⟩ := hletter
      exact fun hnil => hne (Name.camelCase_eq_nil_iff.mp hnil c hc)
  refine ⟨fun argument rest text text' htop h h' => ⟨?_, fun hnil => ?_, fun hundivided hne => ?_⟩,
    fun model argument text hmodel hspells h => ?_⟩
  · rw [h.ofText_eq hname hmember, h'.ofText_eq hname hmember, ofCall_reference, ofCall_reference,
      Call.firstArgument_append_comma htop]
  · have hfirst := Call.firstArgument_of_not_mem (Name.not_mem_of_stripQuotes_trim_eq_nil hnil)
    rw [h.ofText_eq hname hmember, ofCall_reference, hfirst, if_pos hnil]
    rfl
  · have hfirst := Call.undivided_iff_firstArgument.mp hundivided
    exact h.ofText_of_model hname hmember (by rw [hfirst]) hne line
  · exact h.ofText_of_model hname hmember (hspells.stripQuotes_eq hmodel) hmodel.ne_nil line

/-- An argument with a comma in a bracket of another kind than the one that pays it off, with a
literal and with a bracket that closes nothing, in front of a bracket and a quote that nothing
closes; quotes with nothing in them; and a name in quotes between blanks. -/
theorem ofText_reference_two :
    (ofText "a_b = m.ForeignKey(f[x, ')'\x7d] )" 2 true =
        ofText "a_b=ForeignKey (f[x, ')'\x7d] ,([\")" 2 true ∧
      ofText "a_b = m.ForeignKey(f[x, ')'\x7d] )" 2 true =
        .ok (some ⟨"a_b", "aB", "ForeignKey", some "f[x, ')'\x7d]Model",
          .reference "f[x, ')'\x7d]Model", 2⟩)) ∧
      ofText "a_b=ForeignKey( '')" 2 true = .error (.missingReference "a_b") ∧
      ofText "a_b=ForeignKey(\t\"U=1\"\n)" 2 true =
        .ok (some ⟨"a_b", "aB", "ForeignKey", some "U=1Model", .reference "U=1Model", 2⟩) := by
  have hname : IsName "a_b".toList := by decide
  have hletter : ∃ c ∈ "a_b".toList, c ≠ '_' := ⟨'a', by decide, by decide⟩
  have hblank : AllBlank [' '] := .singleton (by decide)
  have hdotted : Call.Dotted "ForeignKey".toList "m.ForeignKey".toList :=
    .dot (show Name.isWord ['m'] = true by decide) .nil .nil (.word (by decide))
  have hword : Call.Dotted "ForeignKey".toList "ForeignKey".toList := .word (by decide)
  have h : Assigns "a_b".toList "ForeignKey".toList "f[x, ')'\x7d] ".toList
      "a_b = m.ForeignKey(f[x, ')'\x7d] )".toList := .mk .nil hblank hblank .nil (.mk hdotted .nil)
  have h' : Assigns "a_b".toList "ForeignKey".toList
      ("f[x, ')'\x7d] ".toList ++ ',' :: "([\"".toList)
      "a_b=ForeignKey (f[x, ')'\x7d] ,([\")".toList := .mk .nil .nil .nil .nil (.mk hword hblank)
  have hempty : Assigns "a_b".toList "ForeignKey".toList " ''".toList
      "a_b=ForeignKey( '')".toList := .mk .nil .nil .nil .nil (.mk hword .nil)
  have hempty' : Assigns "a_b".toList "ForeignKey".toList (" ''".toList ++ ',' :: ")".toList)
      "a_b=ForeignKey( '',))".toList := .mk .nil .nil .nil .nil (.mk hword .nil)
  have hquoted : Assigns "a_b".toList "ForeignKey".toList "\t\"U=1\"\n".toList
      "a_b=ForeignKey(\t\"U=1\"\n)".toList := .mk .nil .nil .nil .nil (.mk hword .nil)
  have hmodel : IsModel "U=1".toList := by decide
  have hspells : Spells "U=1".toList "\t\"U=1\"\n".toList :=
    .quoted (q := '"') (Or.inr rfl) (.singleton (c := '\t') (by decide))
      (.singleton (c := '\n') (by decide))
  obtain ⟨hrest, hspelled⟩ := ofText_reference hname hletter true 2
  obtain ⟨heq, -, htarget⟩ := hrest _ _ _ _ (by decide) h h'
  exact ⟨⟨heq, htarget (by decide) (by decide)⟩,
    (hrest _ _ _ _ (by decide) hempty hempty').2.1 (by decide),
    hspelled _ _ _ hmodel hspells hquoted⟩

/-! ## Keywords -/

/-- The characters of keywords: no blanks and quotes, no brackets, commas and equals signs. -/
def continuesKeyword (c : Char) : Bool :=
  !(isBlank c || Quoting.opens c || Call.opensBracket c || Call.closesBracket c ||
    c == ',' || c == '=')

theorem continuesKeyword_of_continuesWord {c : Char} (h : Name.continuesWord c = true) :
    continuesKeyword c = true := by
  have hne : ∀ d, Name.continuesWord d = false → c ≠ d := by
    rintro d hd rfl
    rw [h] at hd
    cases hd
  simp (disch := decide) [continuesKeyword, Name.not_isBlank_of_continuesWord h, Quoting.opens,
    Call.opensBracket, Call.closesBracket, hne]

/-- An argument with a keyword, and an equals sign that is not doubled. -/
inductive IsKeyword : List Char → Prop
  | mk {before keyword between value : List Char} (hbefore : AllBlank before)
      (hbetween : AllBlank between) (hne : keyword ≠ [])
      (hplain : ∀ c ∈ keyword, continuesKeyword c = true)
      (hvalue : value.head? ≠ some '=') :
      IsKeyword (before ++ (keyword ++ between ++ '=' :: value))

/-- A keyword may be any word. -/
theorem IsKeyword.of_isWord {before between : List Char} (hbefore : AllBlank before)
    (hbetween : AllBlank between) (keyword value : List Char)
    (hkeyword : Name.isWord keyword = true) (hvalue : value.head? ≠ some '=') :
    IsKeyword (before ++ (keyword ++ between ++ '=' :: value)) :=
  .mk hbefore hbetween (Name.ne_nil_of_isWord hkeyword)
    (fun c hc => continuesKeyword_of_continuesWord (Name.continuesWord_of_isWord hkeyword c hc))
    hvalue

/-- Nothing is taken away from an argument with a keyword but the blanks around it. -/
theorem IsKeyword.stripQuotes_eq {argument : List Char} (h : IsKeyword argument) :
    Name.stripQuotes (trim argument) = trim argument ∧ trim argument ≠ [] := by
  obtain ⟨hbefore, hbetween, hne, hplain, -⟩ := h
  rename_i before keyword between value
  obtain ⟨c, keyword, rfl⟩ := List.exists_cons_of_ne_nil hne
  have hc := hplain c List.mem_cons_self
  simp only [continuesKeyword, Bool.not_eq_true', Bool.or_eq_false_iff] at hc
  obtain ⟨⟨⟨⟨⟨hblank, hopens⟩, -⟩, -⟩, -⟩, -⟩ := hc
  obtain ⟨t, ht⟩ : ∃ t, trim (before ++ (c :: keyword ++ between ++ '=' :: value)) = c :: t := by
    rw [trim_blank_append hbefore, trim, List.cons_append, List.cons_append,
      trimStart_cons_of_not_blank hblank]
    exact head_trimEnd hblank _
  rw [ht]
  refine ⟨Name.stripQuotes_of_head fun d hd => ?_, List.cons_ne_nil c t⟩
  rwa [← Option.some.inj hd]

/-- **A keyword is taken for a part of the model's name.** A reference whose first argument has a
keyword is to the model that the whole argument names, keyword and all. It is no error. -/
theorem ofText_keyword {first arguments : List Char} (hname : IsName name)
    (hmember : memberNameOf camelCase name ≠ [])
    (h : Assigns name "ForeignKey".toList arguments text.toList)
    (hfirst : Call.IsFirst first arguments) (hkeyword : IsKeyword first) (line : Nat) :
    ofText text line camelCase =
      .ok (some (referenceTo name (memberNameOf camelCase name) (trim first) line)) := by
  obtain ⟨hstrip, hne⟩ := hkeyword.stripQuotes_eq
  rw [← Call.firstArgument_eq_iff] at hfirst
  exact h.ofText_of_model hname hmember (by rw [hfirst, hstrip]) hne line

/-- A keyword with a value that has an equals sign, and a comma in brackets. -/
theorem ofText_keyword_value :
    ofText "u = ForeignKey( to = f(a==b, 'U'), null=True)" 4 false =
      .ok (some ⟨"u", "u", "ForeignKey", some "to = f(a==b, 'U')Model",
        .reference "to = f(a==b, 'U')Model", 4⟩) := by
  have hname : IsName "u".toList := by decide
  have hblank : AllBlank [' '] := .singleton (by decide)
  have h : Assigns "u".toList "ForeignKey".toList
      (" to = f(a==b, 'U')".toList ++ ',' :: " null=True".toList)
      "u = ForeignKey( to = f(a==b, 'U'), null=True)".toList :=
    .mk .nil hblank hblank .nil (.mk (.word (by decide)) .nil)
  have hfirst : Call.IsFirst " to = f(a==b, 'U')".toList
      (" to = f(a==b, 'U')".toList ++ ',' :: " null=True".toList) :=
    .cut (by decide) (by decide) _
  have hkeyword : IsKeyword " to = f(a==b, 'U')".toList :=
    .of_isWord hblank hblank "to".toList " f(a==b, 'U')".toList (by decide) (by decide)
  exact ofText_keyword hname (by decide) h hfirst hkeyword 4

/-- A reference is not without a model if its first argument has a keyword: `to='U'` is taken for
the name of one. -/
theorem ofText_keyword_referenced :
    IsName "u".toList ∧ memberNameOf false "u".toList ≠ [] ∧
      Assigns "u".toList "ForeignKey".toList "to='U', null=True".toList
        "u = models.ForeignKey(to='U', null=True)".toList ∧
      Call.IsFirst "to='U'".toList "to='U', null=True".toList ∧ IsKeyword "to='U'".toList ∧
      ofText "u = models.ForeignKey(to='U', null=True)" 1 false =
        .ok (some ⟨"u", "u", "ForeignKey", some "to='U'Model", .reference "to='U'Model", 1⟩) ∧
      ofText "u = models.ForeignKey(to='U', null=True)" 1 false ≠
        .error (.missingReference "u") := by
  have hblank : AllBlank [' '] := .singleton (by decide)
  have hread : ofText "u = models.ForeignKey(to='U', null=True)" 1 false =
      .ok (some ⟨"u", "u", "ForeignKey", some "to='U'Model", .reference "to='U'Model", 1⟩) := rfl
  refine ⟨by decide, by decide, ?_, ?_, ?_, hread, ?_⟩
  · exact .mk .nil hblank hblank .nil
      (.mk (.dot (show Name.isWord "models".toList = true by decide) .nil .nil
        (.word (by decide))) .nil)
  · exact .cut (by decide) (by decide) " null=True".toList
  · exact .of_isWord .nil .nil "to".toList "'U'".toList (by decide) (by decide)
  · rw [hread]
    exact fun e => by cases e

end Field

end DartModels
