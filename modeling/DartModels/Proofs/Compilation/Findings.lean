import DartModels.Proofs.DartClass.Source

/-!
# Types of fields and findings about them

Whatever text a field is read from, its parts go together (`Field.Consistent`): it has a name in the
source and one in Dart, it refers to a class exactly if its token is that of a reference, and its
type is the one that its token and this class have. So the name of a type is empty only if the type
is not known, and then there is a finding about the field.

Results:
* `Field.consistent_of_ofText`: the parts of a field that is read go together;
* `Field.Consistent.ofField?_eq`: there is a finding about a field exactly if nothing stands for the
  type in the line of its member;
* `Field.Consistent.entryLine_eq_iff`: a member stands in its entry as it is exactly if the table
  has a text for its token;
* `compile_findings`: the findings of a compilation and the source of the class.
-/

namespace DartModels

open Text

namespace DartType

theorem name_ne_of_mem_table : ∀ e ∈ table, e.2 ≠ "" := by decide

/-- A token without a reference has no type exactly if it is not in the table. -/
theorem ofToken_eq_unresolved_iff {token : String} (h : token ≠ referenceToken)
    (referenced : Option String) :
    ofToken token referenced = unresolved ↔ ∀ n, (token, n) ∉ table := by
  rw [ofToken_of_ne_referenceToken h]
  simp only [← lookup_table_eq_some_iff]
  cases table.lookup token <;> simp

end DartType

namespace Field

/-- The parts of a field go together. -/
structure Consistent (f : Field) : Prop where
  sourceName : f.sourceName ≠ ""
  memberName : f.memberName ≠ ""
  referenced : (∃ r, f.referenced = some r) ↔ f.token = "ForeignKey"
  reference : ∀ r, f.referenced = some r →
    (∃ model, model ≠ "" ∧ r = model ++ "Model") ∧ f.type = .reference r
  native : ∀ n, f.type = .native n ↔ (f.token, n) ∈ DartType.table
  unresolved : f.type = .unresolved ↔
    f.token ≠ "ForeignKey" ∧ ∀ n, (f.token, n) ∉ DartType.table

/-- What a call refers to: the class of a model if it is a reference, and nothing otherwise. -/
theorem referenced_of_ok {call : Call} {field : String} {referenced : Option String}
    (h : call.referenced field = .ok referenced) :
    (String.ofList call.token = DartType.referenceToken ∧
        ∃ model, model ≠ "" ∧ referenced = some (model ++ "Model")) ∨
      String.ofList call.token ≠ DartType.referenceToken ∧ referenced = none := by
  unfold Call.referenced at h
  split at h
  · rename_i ht
    split at h
    · cases h
    · rename_i hne
      exact Or.inl ⟨ht, _, fun hempty => hne (String.ofList_eq_empty_iff.mp hempty),
        (Except.ok.inj h).symm⟩
  · rename_i ht
    exact Or.inr ⟨ht, (Except.ok.inj h).symm⟩

/-- **The parts of a field that is read go together.** -/
theorem consistent_of_ofText {text : String} {line : Nat} {camelCase : Bool} {f : Field}
    (h : ofText text line camelCase = .ok (some f)) : f.Consistent := by
  obtain ⟨-, left, right, -, hname, hmember, hcall⟩ := ofText_eq_some_iff.mp h
  generalize (Call.ofText? (trim right)).getD ⟨[], []⟩ = call at hcall
  obtain ⟨referenced, hr, rfl⟩ := ofCall_eq_ok_iff.mp hcall
  have hnative : ∀ n, DartType.ofToken (String.ofList call.token) referenced = .native n ↔
      (String.ofList call.token, n) ∈ DartType.table :=
    fun n => DartType.ofToken_eq_native_iff.trans DartType.lookup_table_eq_some_iff
  have hnames : ∀ s : List Char, s ≠ [] → String.ofList s ≠ "" :=
    fun s hs hempty => hs (String.ofList_eq_empty_iff.mp hempty)
  rcases referenced_of_ok hr with ⟨ht, model, hmodel, rfl⟩ | ⟨ht, rfl⟩
  · have htype : DartType.ofToken (String.ofList call.token) (some (model ++ "Model")) =
        .reference (model ++ "Model") := if_pos ht
    exact {
      sourceName := hnames _ hname
      memberName := hnames _ hmember
      referenced := iff_of_true ⟨_, rfl⟩ ht
      reference := by
        rintro r hr
        obtain rfl := Option.some.inj hr
        exact ⟨⟨model, hmodel, rfl⟩, htype⟩
      native := hnative
      unresolved := iff_of_false (by simp [htype]) fun h => h.1 ht }
  · exact {
      sourceName := hnames _ hname
      memberName := hnames _ hmember
      referenced := iff_of_false (by simp) ht
      reference := by simp
      native := hnative
      unresolved := (DartType.ofToken_eq_unresolved_iff ht none).trans
        ⟨fun h => ⟨ht, h⟩, And.right⟩ }

/-- There is nothing for the type in the line of a member exactly if its name is empty. -/
theorem memberLine_eq_iff {f : Field} :
    f.memberLine = "    ? " ++ f.memberName ++ ";" ↔ f.type.name = "" := by
  have hempty : "    ? " = "    " ++ "" ++ "? " := rfl
  rw [memberLine, hempty, String.append_left_inj, String.append_left_inj, String.append_left_inj,
    String.append_right_inj]

namespace Consistent

variable {f : Field}

/-- **The name of a type is empty** exactly if the type is not known. -/
theorem name_eq_empty_iff (h : f.Consistent) : f.type.name = "" ↔ f.type = .unresolved := by
  cases htype : f.type with
  | native n =>
    refine iff_of_false (fun hname => ?_) (by simp)
    exact DartType.name_ne_of_mem_table _ ((h.native n).mp htype) hname
  | reference r =>
    have ht : f.token = "ForeignKey" := by
      by_contra hne
      have hunresolved := mt h.unresolved.mpr (by simp [htype])
      push Not at hunresolved
      obtain ⟨n, hn⟩ := hunresolved hne
      rw [← h.native, htype] at hn
      cases hn
    obtain ⟨r', hr'⟩ := h.referenced.mpr ht
    obtain ⟨⟨model, hmodel, rfl⟩, hreference⟩ := h.reference r' hr'
    obtain rfl := DartType.reference.inj (htype.symm.trans hreference)
    refine iff_of_false (fun hname => ?_) (by simp)
    simp [DartType.name] at hname
  | unresolved => simp [DartType.name]

/-- **There is a finding about a field** exactly if nothing stands for the type in the line of its
member. -/
theorem ofField?_eq (h : f.Consistent) :
    Diagnostic.ofField? f =
      if f.memberLine = "    ? " ++ f.memberName ++ ";" then
        some (.unresolvedType f.sourceName f.token f.line)
      else none := by
  simp only [memberLine_eq_iff, h.name_eq_empty_iff, ← DartType.isResolved_eq_false_iff]
  unfold Diagnostic.ofField?
  cases f.type.isResolved <;> rfl

/-- **A member stands in its entry as it is** exactly if the table has a text for its token. -/
theorem entryLine_eq_iff (h : f.Consistent) :
    f.entryLine = "        '" ++ f.sourceName ++ "' : " ++ f.memberName ++ "," ↔
      (f.token, "String") ∈ DartType.table := by
  have hstring : f.type.isString = true ↔ f.type = .native "String" := by
    cases f.type <;> simp [DartType.isString]
  rw [← h.native, ← hstring, entryLine, String.append_right_inj]
  cases f.type.isString <;> simp

end Consistent

end Field

/-- **Every field that is read goes together, and every empty type is reported.** Whatever text a
field is read from, it has names, it refers to the class of a model exactly if its token is that of
a reference, and its type follows from the two. So the findings of a compilation are, in order and
with name, token and line, those about the fields of which the source of the class has a member
without a type; and the source writes out as they are the members whose tokens have a text in the
table, and no others. -/
theorem compile_findings :
    (∀ (text : String) (line : Nat) (camelCase : Bool) (f : Field),
        Field.ofText text line camelCase = .ok (some f) → f.Consistent) ∧
      ∀ (text : String) (o : Options) (c : Compilation), compile text o = .ok c →
        ∃ b : Blocks, Text.lines c.model.source.toList = (b.lines c.model.name).map String.toList ∧
          b.Lists c.model.fields ∧
          c.diagnostics = (b.members.zip c.model.fields).filterMap (fun p =>
            if p.1 = "    ? " ++ p.2.memberName ++ ";" then
              some (.unresolvedType p.2.sourceName p.2.token p.2.line)
            else none) ∧
          List.Forall₂ (fun entry f =>
            entry = "        '" ++ f.sourceName ++ "' : " ++ f.memberName ++ "," ↔
              (f.token, "String") ∈ DartType.table) b.entries c.model.fields := by
  refine ⟨fun text line camelCase f => Field.consistent_of_ofText, fun text o c hc => ?_⟩
  have hconsistent : ∀ f ∈ c.model.fields, f.Consistent := by
    intro f hf
    obtain ⟨t, n, ht⟩ := exists_ofText hc hf
    exact Field.consistent_of_ofText ht
  refine ⟨c.model.blocks, ?_, c.model.lists_blocks, ?_, ?_⟩
  · rw [(oneLine_of_compile hc).lines_source, c.model.sourceLines_eq]
  · obtain ⟨_, ds, fs, _, _, rfl⟩ := compile_eq_ok_iff.mp hc
    have hzip : (fs.map Field.memberLine).zip fs = fs.map fun f => (f.memberLine, f) := by
      simpa using (List.zip_map' : (fs.map Field.memberLine).zip (fs.map id) = _)
    change Diagnostic.ofFields fs = ((fs.map Field.memberLine).zip fs).filterMap _
    rw [hzip, List.filterMap_map, Diagnostic.ofFields]
    exact List.filterMap_congr fun f hf => (hconsistent f hf).ofField?_eq
  · change List.Forall₂ _ (c.model.fields.map Field.entryLine) c.model.fields
    rw [List.forall₂_map_left_iff, List.forall₂_same]
    exact fun f hf => (hconsistent f hf).entryLine_eq_iff

/-- A reference, a text, a date and a field with a token that has no type, of which the class has a
member without one. -/
theorem compile_findings_four :
    (Field.mk "u_1" "u1" "ForeignKey" (some "UModel") (.reference "UModel") 1).Consistent ∧
      ∃ c, compile "u = m.ForeignKey(U)\na = TextField()\nd = DateField()\n\nj = JSONField()"
            ⟨"A", false⟩ = .ok c ∧
        c.diagnostics = [.unresolvedType "j" "JSONField" 5] ∧
        ∃ b : Blocks, b.Lists c.model.fields ∧
          b.members = ["    UModel? u;", "    String? a;", "    DateTime? d;", "    ? j;"] ∧
          List.Forall₂ (fun entry f =>
            entry = "        '" ++ f.sourceName ++ "' : " ++ f.memberName ++ "," ↔
              (f.token, "String") ∈ DartType.table) b.entries c.model.fields := by
  have hf : Field.ofText "u_1 = ForeignKey('U', n)" 1 true =
      .ok (some ⟨"u_1", "u1", "ForeignKey", some "UModel", .reference "UModel", 1⟩) := rfl
  have hc : compile "u = m.ForeignKey(U)\na = TextField()\nd = DateField()\n\nj = JSONField()"
      ⟨"A", false⟩ = .ok ⟨⟨"A", [⟨"u", "u", "ForeignKey", some "UModel", .reference "UModel", 1⟩,
        ⟨"a", "a", "TextField", none, .native "String", 2⟩,
        ⟨"d", "d", "DateField", none, .native "DateTime", 3⟩,
        ⟨"j", "j", "JSONField", none, .unresolved, 5⟩]⟩,
        [.unresolvedType "j" "JSONField" 5]⟩ := rfl
  obtain ⟨b, -, hlists, -, hentries⟩ := compile_findings.2 _ _ _ hc
  exact ⟨compile_findings.1 _ _ _ _ hf, _, hc, rfl, b, hlists, hlists.members, hentries⟩

end DartModels
