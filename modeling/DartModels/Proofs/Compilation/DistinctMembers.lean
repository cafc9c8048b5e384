import DartModels.Proofs.Compilation.CamelCase
import DartModels.Proofs.Name.SnakeCase

/-!
# Members with names of their own

Two fields of different names may have one name for their members in camel case, and nothing stops
such a compilation. If the names of the fields are conventional, this does not happen: each can be
read back from that of its member.

Results:
* `nodup_memberName_camelCased`: fields with different conventional names have members with
  different names in camel case;
* `camelCase_conventional`: conventional names, and the compilations of fields that have them.
-/

namespace DartModels

namespace Field

/-- The name of the field is conventional. -/
def isConventional (f : Field) : Bool :=
  Name.isConventional f.sourceName.toList

theorem snakeCase_memberName_camelCased {f : Field} (h : f.isConventional = true) :
    Name.snakeCase f.camelCased.memberName.toList = f.sourceName.toList := by
  rw [camelCased, String.toList_ofList]
  exact Name.snakeCase_camelCase h

theorem isUnderscores_of_isConventional {f : Field} (h : f.isConventional = true) :
    f.isUnderscores = false := by
  obtain ⟨c, hc, hne⟩ := Name.exists_ne_underscore_of_isConventional h
  rw [← Bool.not_eq_true, isUnderscores, List.all_eq_true]
  exact fun hall => hne (by simpa using hall c hc)

/-- **Different conventional names** give different names of members in camel case. -/
theorem nodup_memberName_camelCased {fs : List Field} (h : ∀ f ∈ fs, f.isConventional = true)
    (hd : (fs.map (·.sourceName)).Nodup) :
    ((fs.map camelCased).map (·.memberName)).Nodup := by
  rw [List.map_map]
  rw [List.Nodup, List.pairwise_map] at hd ⊢
  refine hd.imp_of_mem fun {f g} hf hg hne heq => hne ?_
  have hsnake := congrArg (fun s => Name.snakeCase s.toList) heq
  simp only [Function.comp] at hsnake
  rw [snakeCase_memberName_camelCased (h f hf), snakeCase_memberName_camelCased (h g hg)] at hsnake
  exact String.toList_inj.mp hsnake

end Field

/-- Whatever is compiled can be compiled without camel case, to fields of the same names. -/
theorem exists_compile_plain {text : String} {o : Options} {c : Compilation}
    (h : compile text o = .ok c) :
    ∃ p, compile text ⟨o.className, false⟩ = .ok p ∧
      p.model.fields.map (·.sourceName) = c.model.fields.map (·.sourceName) := by
  obtain ⟨className, camelCase⟩ := o
  cases camelCase with
  | false => exact ⟨c, h, rfl⟩
  | true =>
    obtain ⟨p, hp, rfl⟩ := exists_compile_of_camelCase h
    refine ⟨p, hp, ?_⟩
    rw [Compilation.camelCased, List.map_map]
    rfl

/-- Fields with conventional names compile in camel case. -/
theorem compile_camelCase_of_isConventional {text className : String} {p : Compilation}
    (h : compile text ⟨className, false⟩ = .ok p)
    (hconv : ∀ f ∈ p.model.fields, f.isConventional = true) :
    compile text ⟨className, true⟩ = .ok p.camelCased := by
  have hfind : p.model.fields.find? Field.isUnderscores = none :=
    List.find?_eq_none.mpr fun f hf => by
      rw [Field.isUnderscores_of_isConventional (hconv f hf)]
      exact Bool.false_ne_true
  rw [compile_camelCase_eq h, hfind]

/-- **Camel case keeps conventional names apart.** They are read back from it, so no two are the
same in it; and where different fields have them, a compilation in camel case succeeds, and each
member has a name of its own that tells that of its field. -/
theorem camelCase_conventional :
    (∀ s, Name.isConventional s = true → Name.snakeCase (Name.camelCase s) = s) ∧
      (∀ s t, Name.isConventional s = true → Name.isConventional t = true →
        Name.camelCase s = Name.camelCase t → s = t) ∧
      ∀ (text : String) (o : Options) (c : Compilation), compile text o = .ok c →
        (∀ f ∈ c.model.fields, Name.isConventional f.sourceName.toList = true) →
        (c.model.fields.map (·.sourceName)).Nodup →
        ∃ c', compile text { o with camelCase := true } = .ok c' ∧
          c'.model.fields.map (·.sourceName) = c.model.fields.map (·.sourceName) ∧
          (∀ f ∈ c'.model.fields, Name.snakeCase f.memberName.toList = f.sourceName.toList) ∧
          (c'.model.fields.map (·.memberName)).Nodup := by
  refine ⟨fun s => Name.snakeCase_camelCase, fun s t => Name.camelCase_inj,
    fun text o c hc hconv hd => ?_⟩
  obtain ⟨p, hp, hnames⟩ := exists_compile_plain hc
  have hconv' : ∀ f ∈ p.model.fields, f.isConventional = true := by
    intro f hf
    have hname := List.mem_map_of_mem (f := (·.sourceName)) hf
    rw [hnames] at hname
    obtain ⟨g, hg, hgf⟩ := List.mem_map.mp hname
    rw [Field.isConventional, ← hgf]
    exact hconv g hg
  refine ⟨p.camelCased, compile_camelCase_of_isConventional hp hconv', ?_, ?_, ?_⟩
  · rw [← hnames, Compilation.camelCased, List.map_map]
    rfl
  · exact List.forall_mem_map.mpr fun f hf =>
      Field.snakeCase_memberName_camelCased (hconv' f hf)
  · exact Field.nodup_memberName_camelCased hconv' (hnames ▸ hd)

/-- Three names that have the same letters and digits in the same order. -/
theorem camelCase_conventional_three :
    Name.camelCase "a_b1c".toList ≠ Name.camelCase "ab1_c".toList ∧
      Name.snakeCase (Name.camelCase "a_b1_c".toList) = "a_b1_c".toList ∧
      ∃ c', compile "a_b1c = F()\nab1_c = F()\na_b1_c = F()" ⟨"A", true⟩ = .ok c' ∧
        c'.model.fields.map (·.sourceName) = ["a_b1c", "ab1_c", "a_b1_c"] ∧
        (c'.model.fields.map (·.memberName)).Nodup := by
  have hplain : compile "a_b1c = F()\nab1_c = F()\na_b1_c = F()" ⟨"A", false⟩ =
      .ok (.ofFields "A" [⟨"a_b1c", "a_b1c", "F", none, .unresolved, 1⟩,
        ⟨"ab1_c", "ab1_c", "F", none, .unresolved, 2⟩,
        ⟨"a_b1_c", "a_b1_c", "F", none, .unresolved, 3⟩]) := rfl
  obtain ⟨c', hc', hnames, -, hd⟩ :=
    camelCase_conventional.2.2 _ _ _ hplain (by decide) (by decide)
  refine ⟨fun h => ?_, camelCase_conventional.1 _ (by decide), c', hc', hnames, hd⟩
  exact absurd (camelCase_conventional.2.1 _ _ (by decide) (by decide) h) (by decide)

end DartModels
