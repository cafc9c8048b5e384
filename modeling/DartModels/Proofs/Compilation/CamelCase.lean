import DartModels.Proofs.Compilation.Provenance
import DartModels.Proofs.DartClass.Source

/-!
# Members in camel case

Camel case is an option that renames the members of a class and touches nothing else of a field: its
name in the source, and with it the key of JSON, its token, what it refers to, its type and its line
are those of the compilation without camel case, and so are the findings. The option can only make a
compilation fail, and does so at the first field of whose name nothing is left, since it consists of
underscores.

Results:
* `Field.ofText_camelCase_eq_some_iff`, `Field.ofText_camelCase_of_isUnderscores`: a text is read in
  camel case as the field that it is read as without, but for the member's name;
* `Compilation.ofFields_camelCased`: the findings do not depend on the members' names;
* `DartClass.OneLine.hasKeys_iff`: a source has the names of the fields for keys, and no others;
* `compile_camelCase`: the compilation in camel case and the one without.
-/

namespace DartModels

open Text

/-- The field with its member named in camel case. -/
def Field.camelCased (f : Field) : Field :=
  { f with memberName := String.ofList (Name.camelCase f.sourceName.toList) }

/-- The name of the field consists of underscores. -/
def Field.isUnderscores (f : Field) : Bool :=
  f.sourceName.toList.all (· == '_')

/-- The compilation with all members named in camel case. -/
def Compilation.camelCased (c : Compilation) : Compilation :=
  ⟨⟨c.model.name, c.model.fields.map Field.camelCased⟩, c.diagnostics⟩

/-- The initializers of a source read these keys of JSON, and its entries write them, field by
field. -/
def HasKeys (source : String) (keys : List String) : Prop :=
  ∃ (name : String) (b : Blocks) (fs : List Field),
    Text.lines source.toList = (b.lines name).map String.toList ∧ b.Lists fs ∧
      keys = fs.map (·.sourceName)

/-- **The keys of a source** are the names of the fields, and no others. -/
theorem DartClass.OneLine.hasKeys_iff {c : DartClass} (h : c.OneLine) {keys : List String} :
    HasKeys c.source keys ↔ keys = c.fields.map (·.sourceName) := by
  have hlines : Text.lines c.source.toList = (c.blocks.lines c.name).map String.toList := by
    rw [h.lines_source, c.sourceLines_eq]
  constructor
  · rintro ⟨name, b, fs, hb, hlists, rfl⟩
    have hinj : Function.Injective String.toList := fun s t => String.toList_inj.mp
    have heq := List.map_injective_iff.mpr hinj (hb.symm.trans hlines)
    obtain ⟨-, rfl⟩ := hlists.lines_inj c.lists_blocks heq
    have hkeys := congrArg (List.map fun s => s.2.2.1) (hlists.shown_eq c.lists_blocks)
    rwa [List.map_map, List.map_map] at hkeys
  · rintro rfl
    exact ⟨c.name, c.blocks, c.fields, hlines, c.lists_blocks, rfl⟩

namespace Field

theorem camelCase_eq_nil_iff_isUnderscores {f : Field} :
    Name.camelCase f.sourceName.toList = [] ↔ f.isUnderscores = true := by
  rw [Name.camelCase_eq_nil_iff, isUnderscores, List.all_eq_true]
  simp only [beq_iff_eq]

/-- The member's name is all that a call hands on without looking at it. -/
theorem ofCall_camelCase_eq_ok_iff {name : List Char} {call : Call} {line : Nat} {g : Field} :
    ofCall name (Name.camelCase name) call line = .ok g ↔
      ∃ f, ofCall name name call line = .ok f ∧ g = f.camelCased := by
  constructor
  · intro h
    obtain ⟨referenced, hr, rfl⟩ := ofCall_eq_ok_iff.mp h
    refine ⟨_, ofCall_eq_ok_iff.mpr ⟨referenced, hr, rfl⟩, ?_⟩
    rw [camelCased, String.toList_ofList]
  · rintro ⟨f, hf, rfl⟩
    obtain ⟨referenced, hr, rfl⟩ := ofCall_eq_ok_iff.mp hf
    refine ofCall_eq_ok_iff.mpr ⟨referenced, hr, ?_⟩
    rw [camelCased, String.toList_ofList]

theorem sourceName_of_ofCall {name member : List Char} {call : Call} {line : Nat} {f : Field}
    (h : ofCall name member call line = .ok f) : f.sourceName.toList = name := by
  obtain ⟨referenced, _, rfl⟩ := ofCall_eq_ok_iff.mp h
  exact String.toList_ofList

/-- **A text is read in camel case** as the field that it is read as without, with its member in
camel case, and unless the name of this field consists of underscores. -/
theorem ofText_camelCase_eq_some_iff {text : String} {line : Nat} {g : Field} :
    ofText text line true = .ok (some g) ↔
      ∃ f, ofText text line false = .ok (some f) ∧ f.isUnderscores = false ∧
        g = f.camelCased := by
  constructor
  · intro h
    obtain ⟨hv, left, right, hc, hname, hmember, hcall⟩ := ofText_eq_some_iff.mp h
    obtain ⟨f, hf, rfl⟩ := ofCall_camelCase_eq_ok_iff.mp hcall
    refine ⟨f, ofText_eq_some_iff.mpr ⟨hv, left, right, hc, hname, hname, hf⟩, ?_, rfl⟩
    rw [← Bool.not_eq_true, ← camelCase_eq_nil_iff_isUnderscores, sourceName_of_ofCall hf]
    exact hmember
  · rintro ⟨f, hf, hu, rfl⟩
    obtain ⟨hv, left, right, hc, hname, -, hcall⟩ := ofText_eq_some_iff.mp hf
    rw [← Bool.not_eq_true, ← camelCase_eq_nil_iff_isUnderscores, sourceName_of_ofCall hcall] at hu
    exact ofText_eq_some_iff.mpr ⟨hv, left, right, hc, hname, hu,
      ofCall_camelCase_eq_ok_iff.mpr ⟨f, hcall, rfl⟩⟩

/-- **A field whose name consists of underscores** is an error of its line in camel case. -/
theorem ofText_camelCase_of_isUnderscores {text : String} {line : Nat} {f : Field}
    (h : ofText text line false = .ok (some f)) (hu : f.isUnderscores = true) :
    ofText text line true = .error ((Fault.emptyMemberName f.sourceName).onLine f.line) := by
  obtain ⟨hv, left, right, hc, hname, -, hcall⟩ := ofText_eq_some_iff.mp h
  have hmember : memberNameOf true (trim left) = [] := by
    rw [← camelCase_eq_nil_iff_isUnderscores, sourceName_of_ofCall hcall] at hu
    exact hu
  obtain ⟨referenced, -, rfl⟩ := ofCall_eq_ok_iff.mp hcall
  simp [ofText, hv, hc, hname, hmember]

/-- A declaration that is read as a field, read in camel case. -/
theorem ofDeclaration_camelCase {d : Declaration} {f : Field}
    (h : ofDeclaration false d = .ok (some f)) :
    ofDeclaration true d =
      if f.isUnderscores then .error ((Fault.emptyMemberName f.sourceName).onLine f.line)
      else .ok (some f.camelCased) := by
  cases hu : f.isUnderscores with
  | true => exact ofText_camelCase_of_isUnderscores h hu
  | false => exact ofText_camelCase_eq_some_iff.mpr ⟨f, h, hu, rfl⟩

end Field

theorem Compilation.ofFields_camelCased (className : String) (fs : List Field) :
    ofFields className (fs.map Field.camelCased) = (ofFields className fs).camelCased := by
  have hfindings : Diagnostic.ofFields (fs.map Field.camelCased) = Diagnostic.ofFields fs := by
    unfold Diagnostic.ofFields
    rw [List.filterMap_map]
    exact List.filterMap_congr fun f _ => rfl
  unfold ofFields
  rw [hfindings]
  rfl

/-- **Fields are read in camel case up to the first whose name consists of underscores.** -/
theorem readFields_camelCase {text : String} {ds : List Declaration} {fs : List Field}
    (hds : declarations text = .ok ds) (hfs : (readFields false ds).toExcept = .ok fs) :
    (readFields true ds).toExcept =
      match fs.find? Field.isUnderscores with
      | some f => .error ((Fault.emptyMemberName f.sourceName).onLine f.line)
      | none => .ok (fs.map Field.camelCased) := by
  have hall : List.Forall₂ (fun d f => Field.ofDeclaration true d =
      if f.isUnderscores then .error ((Fault.emptyMemberName f.sourceName).onLine f.line)
      else .ok (some f.camelCased)) ds fs :=
    (forall₂_comesFrom hds hfs).imp fun _ _ h => Field.ofDeclaration_camelCase h.read
  rw [readFields, Progress.toExcept_ofList_of_forall₂ hall]
  cases fs.find? Field.isUnderscores <;> rfl

/-- Fields that can be read in camel case can be read without. -/
theorem exists_readFields_of_camelCase {text : String} {ds : List Declaration} {gs : List Field}
    (hds : declarations text = .ok ds) (hgs : (readFields true ds).toExcept = .ok gs) :
    ∃ fs, (readFields false ds).toExcept = .ok fs := by
  cases hfs : (readFields false ds).toExcept with
  | ok fs => exact ⟨fs, rfl⟩
  | error e =>
    obtain ⟨d, hd, he⟩ := Progress.exists_of_ofList_eq_error hfs
    obtain ⟨i, rfl⟩ := List.mem_iff_get.mp hd
    have hall := forall₂_comesFrom hds hgs
    have hread := (hall.get i.isLt (hall.length_eq ▸ i.isLt)).read
    obtain ⟨f, hf, _⟩ := Field.ofText_camelCase_eq_some_iff.mp hread
    exact absurd (he.symm.trans hf) (by simp)

theorem compile_camelCase_eq {text className : String} {c : Compilation}
    (h : compile text ⟨className, false⟩ = .ok c) :
    compile text ⟨className, true⟩ =
      match c.model.fields.find? Field.isUnderscores with
      | some f => .error ((Fault.emptyMemberName f.sourceName).onLine f.line)
      | none => .ok c.camelCased := by
  obtain ⟨ho, ds, fs, hds, hfs, rfl⟩ := compile_eq_ok_iff.mp h
  have hcamel : compile text ⟨className, true⟩ =
      (readFields true ds).toExcept.map (Compilation.ofFields className) := by
    rw [compile_of_isIdentifier (o := ⟨className, true⟩) ho, hds]
    rfl
  rw [hcamel, readFields_camelCase hds hfs]
  simp only [Compilation.ofFields]
  cases fs.find? Field.isUnderscores with
  | some f => rfl
  | none => exact congrArg Except.ok (Compilation.ofFields_camelCased className fs)

theorem exists_compile_of_camelCase {text className : String} {c' : Compilation}
    (h : compile text ⟨className, true⟩ = .ok c') :
    ∃ c, compile text ⟨className, false⟩ = .ok c ∧ c' = c.camelCased := by
  obtain ⟨ho, ds, gs, hds, hgs, _⟩ := compile_eq_ok_iff.mp h
  obtain ⟨fs, hfs⟩ := exists_readFields_of_camelCase hds hgs
  have hc : compile text ⟨className, false⟩ = .ok (.ofFields className fs) :=
    compile_eq_ok_iff.mpr ⟨ho, ds, fs, hds, hfs, rfl⟩
  refine ⟨_, hc, ?_⟩
  rw [compile_camelCase_eq hc] at h
  split at h
  · cases h
  · exact (Except.ok.inj h).symm

theorem transform_eq_ok_iff {text : String} {o : Options} {s : String} :
    transform text o = .ok s ↔ ∃ c, compile text o = .ok c ∧ s = c.model.source := by
  unfold transform
  cases compile text o with
  | error e => simp [Except.map]
  | ok c => simp [Except.map, eq_comm]

/-- **Camel case only renames members.** A text that compiles without camel case compiles in camel
case to the same fields with other names for their members, and with the same findings; or, exactly
if the name of some field consists of underscores, the first such field is the error. A text that
compiles in camel case compiles without. And both sources read and write the same keys of JSON, and
no others. -/
theorem compile_camelCase (text className : String) :
    (∀ c, compile text ⟨className, false⟩ = .ok c →
        compile text ⟨className, true⟩ =
          match c.model.fields.find? Field.isUnderscores with
          | some f => .error ((Fault.emptyMemberName f.sourceName).onLine f.line)
          | none => .ok c.camelCased) ∧
      (∀ c', compile text ⟨className, true⟩ = .ok c' →
        ∃ c, compile text ⟨className, false⟩ = .ok c ∧ c' = c.camelCased) ∧
      ∀ s s', transform text ⟨className, false⟩ = .ok s →
        transform text ⟨className, true⟩ = .ok s' →
        ∃ keys, ∀ ks, (HasKeys s ks ↔ ks = keys) ∧ (HasKeys s' ks ↔ ks = keys) := by
  refine ⟨fun c => compile_camelCase_eq, fun c' => exists_compile_of_camelCase,
    fun s s' hs hs' => ?_⟩
  obtain ⟨c, hc, rfl⟩ := transform_eq_ok_iff.mp hs
  obtain ⟨c', hc', rfl⟩ := transform_eq_ok_iff.mp hs'
  obtain ⟨c'', hc'', rfl⟩ := exists_compile_of_camelCase hc'
  obtain rfl : c = c'' := Except.ok.inj (hc.symm.trans hc'')
  have hkeys : c.camelCased.model.fields.map (·.sourceName) =
      c.model.fields.map (·.sourceName) := by
    simp [Compilation.camelCased, Function.comp_def, Field.camelCased]
  refine ⟨c.model.fields.map (·.sourceName), fun ks => ⟨?_, ?_⟩⟩
  · exact (oneLine_of_compile hc).hasKeys_iff
  · rw [(oneLine_of_compile hc').hasKeys_iff, hkeys]

/-- A name with doubled underscores and a letter that two stand for in upper case, and a name of
underscores behind it. -/
theorem compile_camelCase_two :
    compile "a__ß_b = X()" ⟨"A", true⟩ =
        .ok ⟨⟨"A", [⟨"a__ß_b", "aSSB", "X", none, .unresolved, 1⟩]⟩,
          [.unresolvedType "a__ß_b" "X" 1]⟩ ∧
      compile "a__ß_b = X()\n\n__ = X()\n_ = X()" ⟨"A", true⟩ =
        .error ((Fault.emptyMemberName "__").onLine 3) := by
  have h₁ : compile "a__ß_b = X()" ⟨"A", false⟩ =
      .ok ⟨⟨"A", [⟨"a__ß_b", "a__ß_b", "X", none, .unresolved, 1⟩]⟩,
        [.unresolvedType "a__ß_b" "X" 1]⟩ := rfl
  have h₂ : compile "a__ß_b = X()\n\n__ = X()\n_ = X()" ⟨"A", false⟩ =
      .ok ⟨⟨"A", [⟨"a__ß_b", "a__ß_b", "X", none, .unresolved, 1⟩,
        ⟨"__", "__", "X", none, .unresolved, 3⟩, ⟨"_", "_", "X", none, .unresolved, 4⟩]⟩,
        [.unresolvedType "a__ß_b" "X" 1, .unresolvedType "__" "X" 3,
          .unresolvedType "_" "X" 4]⟩ := rfl
  refine ⟨?_, ?_⟩
  · rw [(compile_camelCase _ "A").1 _ h₁]
    rfl
  · rw [(compile_camelCase _ "A").1 _ h₂]
    rfl

end DartModels
