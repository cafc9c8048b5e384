import DartModels.Proofs.Compilation.CamelCase

/-!
# Identifiers in camel case

Names of fields are not checked to be identifiers. Camel case keeps the characters of an identifier
among those of identifiers, but since it drops the underscores in front, a digit behind them comes
to stand first. So an identifier in camel case is one exactly if the first of its characters that is
not an underscore is not a digit.

Results:
* `Name.isIdentifier_camelCaseFrom`: whether an identifier is still one in camel case;
* `compile_identifiers`: which members of a compilation in camel case have identifiers for names.
-/

namespace DartModels

open Text

namespace Name

/-- The first character that is not an underscore is a digit. -/
def leadsWithDigit (s : List Char) : Bool :=
  (s.dropWhile (· == '_')).head?.any Char.isDigit

theorem leadsWithDigit_underscore_cons (s : List Char) :
    leadsWithDigit ('_' :: s) = leadsWithDigit s := rfl

theorem leadsWithDigit_cons {c : Char} (hc : c ≠ '_') (s : List Char) :
    leadsWithDigit (c :: s) = c.isDigit := by
  simp [leadsWithDigit, hc]

/-! ## Characters in upper case -/

theorem upper_of_continuesIdentifier {c : Char} (h : continuesIdentifier c = true) :
    upper c = [c.toUpper] := by
  rw [continuesIdentifier, Bool.or_eq_true, beq_iff_eq] at h
  rcases h with h | rfl
  · exact upper_of_ascii (toNat_of_continuesWord h).2
  · rfl

/-- A character of an identifier may start one unless it is a digit. -/
theorem startsIdentifier_eq {c : Char} (h : continuesIdentifier c = true) :
    startsIdentifier c = !c.isDigit := by
  cases hd : c.isDigit with
  | true => exact not_startsIdentifier_of_isDigit hd
  | false =>
    rwa [continuesIdentifier, continuesWord, Char.isAlphanum, hd, Bool.or_false] at h

/-- In camel case, a character of an identifier has one of the same kind for its image. -/
theorem exists_image {c : Char} (h : continuesIdentifier c = true) (raised : Bool) :
    ∃ d, (if raised then upper c else [c]) = [d] ∧ startsIdentifier d = startsIdentifier c ∧
      continuesIdentifier d = true := by
  cases raised with
  | false => exact ⟨c, rfl, rfl, h⟩
  | true =>
    refine ⟨c.toUpper, upper_of_continuesIdentifier h, startsIdentifier_toUpper c, ?_⟩
    rw [continuesIdentifier_toUpper, h]

/-! ## Identifiers in camel case -/

theorem continuesIdentifier_camelCaseFrom {s : List Char}
    (h : ∀ c ∈ s, continuesIdentifier c = true) (raised : Bool) :
    ∀ c ∈ camelCaseFrom raised s, continuesIdentifier c = true := by
  induction s generalizing raised with
  | nil => simp [camelCaseFrom]
  | cons c s ih =>
    obtain ⟨hc, hs⟩ := List.forall_mem_cons.mp h
    rw [camelCaseFrom]
    split
    · exact ih hs true
    · obtain ⟨d, hd, -, hcontinues⟩ := exists_image hc raised
      rw [hd]
      exact List.forall_mem_cons.mpr ⟨hcontinues, ih hs false⟩

/-- **Camel case makes an identifier** of the characters of one, unless they consist of underscores
or a digit comes first behind the underscores. -/
theorem isIdentifier_camelCaseFrom {s : List Char} (h : ∀ c ∈ s, continuesIdentifier c = true)
    (hne : ∃ c ∈ s, c ≠ '_') (raised : Bool) :
    isIdentifier (camelCaseFrom raised s) = !leadsWithDigit s := by
  -- Underscores are dropped until the first other character, whose image stands first.
  induction s generalizing raised with
  | nil => simp at hne
  | cons c s ih =>
    obtain ⟨hc, hs⟩ := List.forall_mem_cons.mp h
    rw [camelCaseFrom]
    split
    · rename_i hunderscore
      rw [hunderscore, leadsWithDigit_underscore_cons]
      exact ih hs (by simpa [hunderscore] using hne) true
    · rename_i hother
      obtain ⟨d, hd, hstarts, -⟩ := exists_image hc raised
      have hrest : (camelCaseFrom false s).all continuesIdentifier = true :=
        List.all_eq_true.mpr (continuesIdentifier_camelCaseFrom hs false)
      rw [hd, List.singleton_append, isIdentifier_cons, hrest, Bool.and_true, hstarts,
        startsIdentifier_eq hc, leadsWithDigit_cons hother]

theorem isIdentifier_camelCase_iff {s : List Char} (h : isIdentifier s = true)
    (hne : ∃ c ∈ s, c ≠ '_') :
    isIdentifier (camelCase s) = true ↔ leadsWithDigit s = false := by
  rw [camelCase, isIdentifier_camelCaseFrom (continuesIdentifier_of_isIdentifier h) hne false,
    Bool.not_eq_true']

end Name

/-- **A name that is an identifier stays one in camel case** exactly if the first of its characters
that is not an underscore is not a digit. This is so of every field of a compilation in camel case,
and of every identifier that does not consist of underscores. -/
theorem compile_identifiers :
    (∀ (text className : String) (c : Compilation), compile text ⟨className, true⟩ = .ok c →
        ∀ f ∈ c.model.fields, Name.isIdentifier f.sourceName.toList = true →
          (Name.isIdentifier f.memberName.toList = true ↔
            Name.leadsWithDigit f.sourceName.toList = false)) ∧
      ∀ s : List Char, Name.isIdentifier s = true → (∃ c ∈ s, c ≠ '_') →
        (Name.isIdentifier (Name.camelCase s) = true ↔ Name.leadsWithDigit s = false) := by
  refine ⟨fun text className c hc f hf hname => ?_, fun s => Name.isIdentifier_camelCase_iff⟩
  obtain ⟨t, n, ht⟩ := exists_ofText hc hf
  obtain ⟨g, -, hg, rfl⟩ := Field.ofText_camelCase_eq_some_iff.mp ht
  have hne : ∃ c ∈ g.sourceName.toList, c ≠ '_' := by
    simpa [Field.isUnderscores] using hg
  rw [Field.camelCased, String.toList_ofList]
  exact Name.isIdentifier_camelCase_iff hname hne

/-- The name `$_9a_` stays an identifier, and `__9a` does not. -/
theorem compile_identifiers_two :
    (∃ c, compile "$_9a_ = CharField()\n__9a = CharField()" ⟨"A", true⟩ = .ok c ∧
        c.model.fields.map (fun f => Name.isIdentifier f.memberName.toList) = [true, false]) ∧
      Name.isIdentifier (Name.camelCase "_a$1".toList) = true := by
  have hc : compile "$_9a_ = CharField()\n__9a = CharField()" ⟨"A", true⟩ =
      .ok ⟨⟨"A", [⟨"$_9a_", "$9a", "CharField", none, .native "String", 1⟩,
        ⟨"__9a", "9a", "CharField", none, .native "String", 2⟩]⟩, []⟩ := rfl
  have hfirst := (compile_identifiers.1 _ _ _ hc _ (List.mem_cons_self) (by decide)).mpr rfl
  have hsecond := mt (compile_identifiers.1 _ _ _ hc ⟨"__9a", "9a", "CharField", none,
    .native "String", 2⟩ (by simp) (by decide)).mp (by decide)
  rw [Bool.not_eq_true] at hsecond
  refine ⟨⟨_, hc, ?_⟩, ?_⟩
  · rw [List.map_cons, List.map_singleton, hfirst, hsecond]
  · exact (compile_identifiers.2 "_a$1".toList (by decide) ⟨'a', by decide, by decide⟩).mpr rfl

/-- The name `_1` is an identifier, and nothing stops a member from being named `1` after it. -/
theorem compile_not_identifier :
    ¬ ((∀ (text className : String) (c : Compilation), compile text ⟨className, true⟩ = .ok c →
        ∀ f ∈ c.model.fields, Name.isIdentifier f.sourceName.toList = true →
          Name.isIdentifier f.memberName.toList = true) ∨
      ∀ s : List Char, Name.isIdentifier s = true → (∃ c ∈ s, c ≠ '_') →
        Name.isIdentifier (Name.camelCase s) = true) := by
  rintro (h | h)
  · have hmember := h "_1 = CharField()" "A" ⟨⟨"A", [⟨"_1", "1", "CharField", none,
      .native "String", 1⟩]⟩, []⟩ rfl _ List.mem_cons_self (by decide)
    exact absurd hmember (by decide)
  · exact absurd (h "_1".toList (by decide) ⟨'1', by decide, by decide⟩) (by decide)

end DartModels
