import DartModels.Proofs.Compilation.Provenance
import DartModels.Proofs.Field.Call

/-!
# Fields written out

A field may be written on one line, as `name = models.Token(arguments)` (`FieldLine`). The arguments
may be any text whose literals are closed and whose parentheses pair up. What its literals hold,
equals signs, number signs and parentheses among it, is taken for nothing else by any stage of a
compilation. So a text of such lines compiles, and to the fields that were written.

Results:
* `FieldLine.collapsed_text`, `FieldLine.ofText_text`: a field that is written out is a declaration
  of one line, and is read as this field;
* `FieldLine.isField_field`, `FieldLine.ofField?_field`: what it says, and when there is a finding
  about it;
* `compile_of_lines`, `compile_render`: all fields of a text with a field on each line.
-/

namespace DartModels

open Text

/-- The model that a reference with these arguments is to. -/
def Call.modelName (arguments : String) : String :=
  String.ofList (Name.stripQuotes (trim (firstArgument arguments.toList)))

/-- A field that can be written on one line. -/
structure FieldLine where
  name : String
  token : String
  arguments : String
  name_ne : name.toList ≠ []
  name_trimmed : Trimmed name.toList
  name_head : name.toList.head? ≠ some '#'
  equals_not_mem_name : '=' ∉ name.toList
  newline_not_mem_name : '\n' ∉ name.toList
  isWord_token : Name.isWord token.toList = true
  newline_not_mem_arguments : '\n' ∉ arguments.toList
  balanced_arguments : Declaration.Balanced arguments.toList
  modelName_ne : token = "ForeignKey" → Call.modelName arguments ≠ ""

namespace FieldLine

/-- The field as it is written. -/
def text (l : FieldLine) : String :=
  l.name ++ " = models." ++ l.token ++ "(" ++ l.arguments ++ ")"

/-- Fields written on a line each. -/
def render (ls : List FieldLine) : String :=
  "\n".intercalate (ls.map text)

/-- The class that the field refers to, if it is a reference. -/
def referenced (l : FieldLine) : Option String :=
  if l.token = "ForeignKey" then some (Call.modelName l.arguments ++ "Model") else none

/-- No type goes with the token. -/
def Unresolved (l : FieldLine) : Prop :=
  l.token ≠ "ForeignKey" ∧ ∀ e ∈ DartType.table, e.1 ≠ l.token

instance (l : FieldLine) : Decidable l.Unresolved :=
  inferInstanceAs (Decidable (_ ∧ _))

/-- What the field on line `n` is. -/
structure IsField (l : FieldLine) (camelCase : Bool) (n : Nat) (f : Field) : Prop where
  sourceName : f.sourceName = l.name
  memberName : f.memberName = String.ofList (memberNameOf camelCase l.name.toList)
  token : f.token = l.token
  referenced : f.referenced = l.referenced
  line : f.line = n
  type_reference : l.token = "ForeignKey" →
    f.type = .reference (Call.modelName l.arguments ++ "Model")
  type_native : ∀ e ∈ DartType.table, e.1 = l.token → f.type = .native e.2
  type_unresolved : l.Unresolved → f.type = .unresolved

/-- The finding about the field on line `n`, if its type is not known. -/
def finding? (l : FieldLine) (n : Nat) : Option Diagnostic :=
  if l.Unresolved then some (.unresolvedType l.name l.token n) else none

/-! ## Declarations -/

/-- What stands before the parenthesis of the call. -/
def path (l : FieldLine) : List Char :=
  "models.".toList ++ l.token.toList

/-- The call, without the parenthesis at its end. -/
def call (l : FieldLine) : List Char :=
  l.path ++ '(' :: l.arguments.toList

theorem toList_write (name token arguments : String) :
    (name ++ " = models." ++ token ++ "(" ++ arguments ++ ")").toList =
      (name.toList ++ [' ']) ++
        '=' :: (' ' :: (("models.".toList ++ token.toList) ++ '(' :: arguments.toList) ++ [')']) := by
  have hmodels : " = models.".toList = ' ' :: '=' :: ' ' :: "models.".toList := rfl
  have hopen : "(".toList = ['('] := rfl
  have hclose : ")".toList = [')'] := rfl
  simp only [String.toList_append]
  rw [hmodels, hopen, hclose]
  simp only [List.append_assoc, List.cons_append, List.nil_append]

theorem toList_text (l : FieldLine) :
    l.text.toList = (l.name.toList ++ [' ']) ++ '=' :: (' ' :: l.call ++ [')']) := by
  unfold text call path
  exact toList_write l.name l.token l.arguments

theorem continuesWord_of_mem_token {l : FieldLine} {c : Char} (h : c ∈ l.token.toList) :
    Name.continuesWord c = true :=
  Name.continuesWord_of_isWord l.isWord_token c h

/-- Nothing but letters, digits, underscores and a dot stands before the parenthesis. -/
theorem not_mem_path (l : FieldLine) {c : Char} (hmodels : c ∉ "models.".toList)
    (hc : Name.continuesWord c = false) : c ∉ l.path := by
  intro h
  rcases List.mem_append.mp h with h | h
  · exact hmodels h
  · rw [continuesWord_of_mem_token h] at hc
    cases hc

theorem plain_path (l : FieldLine) : Declaration.Plain (' ' :: l.path) := by
  refine Declaration.plain_of_forall fun c hc => ?_
  have hne : ∀ d, d ∉ ' ' :: "models.".toList → Name.continuesWord d = false → c ≠ d := by
    rintro d hd hw rfl
    rw [List.mem_cons, not_or] at hd
    rcases List.mem_cons.mp hc with h | h
    · exact hd.1 h
    · exact l.not_mem_path hd.2 hw h
  exact ⟨hne _ (by decide) (by decide), hne _ (by decide) (by decide),
    hne _ (by decide) (by decide), hne _ (by decide) (by decide), hne _ (by decide) (by decide)⟩

theorem walk_call (l : FieldLine) :
    Declaration.walk (0, .outside) (' ' :: l.call) = some (1, .outside) :=
  Declaration.walk_call (p := ' ' :: l.path) l.plain_path l.balanced_arguments

theorem newline_not_mem_text (l : FieldLine) : '\n' ∉ l.text.toList := by
  have hpath : '\n' ∉ l.path := l.not_mem_path (by decide) (by decide)
  rw [toList_text, call]
  simp [l.newline_not_mem_name, l.newline_not_mem_arguments, hpath]

theorem trimStart_name (l : FieldLine) (s : List Char) :
    trimStart (l.name.toList ++ s) = l.name.toList ++ s := by
  refine trimStart_of_head fun c hc => l.name_trimmed.head c ?_
  rwa [List.head?_append_of_ne_nil _ l.name_ne] at hc

theorem isVoid_name (l : FieldLine) (s : List Char) : isVoid (l.name.toList ++ s) = false := by
  rw [isVoid, trimStart_name]
  cases hn : l.name.toList with
  | nil => exact absurd hn l.name_ne
  | cons c t =>
    have hhead := l.name_head
    rw [hn] at hhead
    simpa using hhead

/-- **A field that is written out is a declaration of one line.** -/
theorem collapsed_text (l : FieldLine) : Declaration.Collapsed l.text.toList := by
  have hname : '=' ∉ l.name.toList ++ [' '] := by
    simp [l.equals_not_mem_name]
  have hvoid : isVoid ((l.name.toList ++ [' ']) ++ ['=']) = false := by
    rw [List.append_assoc, isVoid_name]
  have hd := Declaration.declares_single hname hvoid l.walk_call
  rw [trimStart_name, ← toList_text] at hd
  refine Declaration.collapsed_of_declares hd fun m hm => ?_
  rw [List.mem_singleton.mp hm]
  exact l.newline_not_mem_text

/-- **Each line is a declaration.** -/
theorem declarations_of_lines {ls : List FieldLine} {text : String}
    (h : lines text.toList = ls.map (·.text.toList)) :
    declarations text = .ok ((ls.zipIdx 1).map fun p => ⟨p.1.text, p.2⟩) := by
  refine Declaration.readLines_eq_ok_iff.mpr ?_
  have hself : ∀ d ∈ ls.map fun l => (⟨l.text, 0⟩ : Declaration),
      Declaration.Declares [d.text.toList] d.text.toList := by
    intro d hd
    obtain ⟨l, -, rfl⟩ := List.mem_map.mp hd
    exact l.collapsed_text.declares
  have hc := Declaration.cut_texts (n := 1) hself
  rw [List.map_map, List.zipIdx_map, List.map_map] at hc
  rw [h]
  exact hc

/-! ## Fields -/

theorem dotted_path (l : FieldLine) : Call.Dotted l.token.toList l.path :=
  .dot (show Name.isWord "models".toList = true by decide) AllBlank.nil AllBlank.nil
    (.word l.isWord_token)

theorem isCall_call (l : FieldLine) :
    Call.IsCall l.token.toList l.arguments.toList (l.call ++ [')']) := by
  have hcall : Call.IsCall l.token.toList l.arguments.toList _ := .mk l.dotted_path AllBlank.nil
  rwa [List.append_nil, ← List.cons_append, ← List.append_assoc] at hcall

/-- **The call is read back.** -/
theorem ofText?_call (l : FieldLine) :
    Call.ofText? (trim (' ' :: l.call ++ [')'])) = some ⟨l.token.toList, l.arguments.toList⟩ := by
  have htrimmed := l.isCall_call.trimmed
  have htrim : trim (' ' :: l.call ++ [')']) = l.call ++ [')'] := by
    rw [List.cons_append, ← List.singleton_append,
      trim_blank_append (AllBlank.singleton (by decide)), htrimmed.trim_eq]
  rw [htrim]
  exact (Call.ofText?_eq_some_iff htrimmed).mpr l.isCall_call

theorem referenced_eq (l : FieldLine) (field : String) :
    Call.referenced ⟨l.token.toList, l.arguments.toList⟩ field = .ok l.referenced := by
  unfold Call.referenced referenced
  simp only [String.ofList_toList, DartType.referenceToken]
  by_cases ht : l.token = "ForeignKey"
  · have hne := l.modelName_ne ht
    rw [if_pos ht, if_pos ht, Call.modelName]
    rw [Call.modelName] at hne
    cases hs : Name.stripQuotes (trim (Call.firstArgument l.arguments.toList)) with
    | nil =>
      rw [hs] at hne
      exact absurd rfl hne
    | cons c s => rfl
  · rw [if_neg ht, if_neg ht]

/-- The field that was written on line `n`. -/
def field (l : FieldLine) (camelCase : Bool) (n : Nat) : Field :=
  ⟨l.name, String.ofList (memberNameOf camelCase l.name.toList), l.token, l.referenced,
    DartType.ofToken l.token l.referenced, n⟩

/-- **A field that is written out is read as this field**, if something is left of its name. -/
theorem ofText_text (l : FieldLine) {camelCase : Bool}
    (hmember : memberNameOf camelCase l.name.toList ≠ []) (n : Nat) :
    Field.ofText l.text n camelCase = .ok (some (l.field camelCase n)) := by
  have hname : trim (l.name.toList ++ [' ']) = l.name.toList := by
    rw [trim_append_blank (AllBlank.singleton (by decide)), l.name_trimmed.trim_eq]
  have hcut : cut? '=' (trim l.text.toList) =
      some (l.name.toList ++ [' '], ' ' :: l.call ++ [')']) := by
    rw [l.collapsed_text.trimmed.trim_eq, toList_text]
    exact cut?_append (by simp [l.equals_not_mem_name]) _
  refine Field.ofText_eq_some_iff.mpr ⟨l.collapsed_text.not_void, _, _, hcut, ?_, ?_, ?_⟩
  · rw [hname]
    exact l.name_ne
  · rw [hname]
    exact hmember
  · rw [hname, ofText?_call]
    refine Field.ofCall_eq_ok_iff.mpr ⟨l.referenced, l.referenced_eq _, ?_⟩
    simp only [field, Option.getD_some, String.ofList_toList]

theorem type_of_unresolved {l : FieldLine} (h : l.Unresolved) (camelCase : Bool) (n : Nat) :
    (l.field camelCase n).type = .unresolved := by
  have hlookup : DartType.table.lookup l.token = none := by
    refine List.lookup_eq_none_iff.mpr fun e he => ?_
    simpa using Ne.symm (h.2 e he)
  exact (DartType.ofToken_of_ne_referenceToken h.1 l.referenced).trans (by rw [hlookup]; rfl)

theorem isField_field (l : FieldLine) (camelCase : Bool) (n : Nat) :
    l.IsField camelCase n (l.field camelCase n) where
  sourceName := rfl
  memberName := rfl
  token := rfl
  referenced := rfl
  line := rfl
  type_reference ht := by
    simp only [field, referenced, ht]
    rfl
  type_native e he ht := by
    simp only [field]
    rw [DartType.ofToken_eq_native_iff, ← ht]
    exact DartType.lookup_table_eq_some_iff.mpr he
  type_unresolved h := type_of_unresolved h camelCase n

/-- There is a finding about the field exactly if no type goes with its token. -/
theorem ofField?_field (l : FieldLine) (camelCase : Bool) (n : Nat) :
    Diagnostic.ofField? (l.field camelCase n) = l.finding? n := by
  unfold Diagnostic.ofField? finding?
  by_cases h : l.Unresolved
  · rw [if_pos h, if_neg (by simp [type_of_unresolved h, DartType.isResolved])]
    rfl
  · have hf := l.isField_field camelCase n
    have hresolved : (l.field camelCase n).type.isResolved = true := by
      by_cases ht : l.token = "ForeignKey"
      · rw [hf.type_reference ht]
        rfl
      · rw [Unresolved, not_and] at h
        have hmem := h ht
        push Not at hmem
        obtain ⟨e, he, het⟩ := hmem
        rw [hf.type_native e he het]
        rfl
    rw [if_neg h, if_pos hresolved]

end FieldLine

/-! ## Texts -/

open FieldLine in
/-- **A text with a field on each line compiles to these fields.** -/
theorem compile_of_lines {ls : List FieldLine} {text : String} {o : Options}
    (h : lines text.toList = ls.map (·.text.toList))
    (ho : Name.isIdentifier o.className.toList = true)
    (hmember : ∀ l ∈ ls, memberNameOf o.camelCase l.name.toList ≠ []) :
    compile text o =
      .ok (.ofFields o.className ((ls.zipIdx 1).map fun p => p.1.field o.camelCase p.2)) := by
  refine compile_eq_ok_iff.mpr ⟨ho, _, _, declarations_of_lines h, ?_, rfl⟩
  have hread : ∀ p ∈ ls.zipIdx 1, Field.ofDeclaration o.camelCase ⟨p.1.text, p.2⟩ =
      .ok (some (p.1.field o.camelCase p.2)) := fun p hp =>
    p.1.ofText_text (hmember p.1 (List.fst_mem_of_mem_zipIdx hp)) p.2
  rw [readFields, Progress.ofList_eq_ok_iff, List.forall₂_map_left_iff, List.forall₂_map_right_iff,
    List.forall₂_same]
  · exact hread
  · intro d hd
    obtain ⟨p, hp, rfl⟩ := List.mem_map.mp hd
    rw [hread p hp]
    simp

open FieldLine in
/-- **Fields that are written out are read back.** A text with a field written on each line compiles
under every class name, in camel case only if no name consists of underscores, to exactly these
fields, in order and on lines one, two and so on, and with one finding for each of them that has a
token without a type. -/
theorem compile_render (ls : List FieldLine) (className : String) (camelCase : Bool)
    (hclass : Name.isIdentifier className.toList = true)
    (hcamel : camelCase = true → ∀ l ∈ ls, ∃ c ∈ l.name.toList, c ≠ '_') :
    ∃ c, compile (render ls) ⟨className, camelCase⟩ = .ok c ∧ c.model.name = className ∧
      List.Forall₂ (fun p f => p.1.IsField camelCase p.2 f) (ls.zipIdx 1) c.model.fields ∧
      c.diagnostics = (ls.zipIdx 1).filterMap fun p => p.1.finding? p.2 := by
  have hlines : lines (render ls).toList = ls.map (·.text.toList) := by
    rw [render, Declaration.lines_of_collapsed (List.forall_mem_map.mpr fun l _ => l.collapsed_text),
      List.map_map]
    rfl
  have hmember : ∀ l ∈ ls, memberNameOf camelCase l.name.toList ≠ [] := by
    intro l hl
    cases camelCase with
    | false => exact l.name_ne
    | true =>
      obtain ⟨c, hc, hne⟩ := hcamel rfl l hl
      exact fun hnil => hne (Name.camelCase_eq_nil_iff.mp hnil c hc)
  refine ⟨_, compile_of_lines (o := ⟨className, camelCase⟩) hlines hclass hmember, rfl, ?_, ?_⟩
  · refine List.forall₂_map_right_iff.mpr (List.forall₂_same.mpr fun p _ => ?_)
    exact p.1.isField_field camelCase p.2
  · change Diagnostic.ofFields _ = _
    rw [Diagnostic.ofFields, List.filterMap_map]
    exact List.filterMap_congr fun p _ => p.1.ofField?_field camelCase p.2

/-- A reference whose name has a number sign and a quote, and whose arguments have a comma in a
literal, a literal with an equals sign, a number sign and a parenthesis, and a call. -/
def FieldLine.reference : FieldLine where
  name := "a#'_b"
  token := "ForeignKey"
  arguments := " 'U,' , \"=#)\", f(1)"
  name_ne := by decide
  name_trimmed := ⟨fun c hc => by cases hc; decide, fun c hc => by cases hc; decide⟩
  name_head := by decide
  equals_not_mem_name := by decide
  newline_not_mem_name := by decide
  isWord_token := by decide
  newline_not_mem_arguments := by decide
  balanced_arguments := Declaration.balanced_of_walk rfl
  modelName_ne _ := by decide

/-- A field without arguments and with a token that has no type. -/
def FieldLine.unknown : FieldLine where
  name := "_c"
  token := "X"
  arguments := ""
  name_ne := by decide
  name_trimmed := ⟨fun c hc => by cases hc; decide, fun c hc => by cases hc; decide⟩
  name_head := by decide
  equals_not_mem_name := by decide
  newline_not_mem_name := by decide
  isWord_token := by decide
  newline_not_mem_arguments := by decide
  balanced_arguments := .nil
  modelName_ne h := absurd h (by decide)

open FieldLine in
/-- A reference and a field with a token that has no type, in camel case. -/
theorem compile_render_two :
    ∃ c, compile "a#'_b = models.ForeignKey( 'U,' , \"=#)\", f(1))\n_c = models.X()" ⟨"A", true⟩ =
        .ok c ∧ c.model.fields.map (·.type) = [.reference "U,Model", .unresolved] ∧
      c.diagnostics = [.unresolvedType "_c" "X" 2] := by
  have hcamel : ∀ l ∈ [reference, unknown], ∃ c ∈ l.name.toList, c ≠ '_' := by
    intro l hl
    rcases List.mem_pair.mp hl with rfl | rfl
    · exact ⟨'a', by decide, by decide⟩
    · exact ⟨'c', by decide, by decide⟩
  obtain ⟨⟨⟨name, fields⟩, findings⟩, hc, -, hfields, hfindings⟩ :=
    compile_render [reference, unknown] "A" true rfl fun _ => hcamel
  refine ⟨_, hc, ?_, hfindings⟩
  cases hfields with
  | cons hreference hrest =>
    cases hrest with
    | cons hunknown hnil =>
      cases hnil
      have hunresolved : unknown.Unresolved := by decide
      rw [List.map_cons, List.map_cons, List.map_nil, hreference.type_reference rfl,
        hunknown.type_unresolved hunresolved]
      rfl

end DartModels
