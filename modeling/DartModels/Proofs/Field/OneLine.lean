import DartModels.DartClass
import DartModels.Proofs.Compilation.Provenance
import DartModels.Proofs.Name

/-!
# Fields on one line

A declaration's text is one line, and whatever a field takes from it stays on one line: names, also
in camel case, since no other character has a line feed in its upper case, and the class referred
to. So does the name of a class that is an identifier.

Results:
* `newline_not_mem_camelCase`, `newline_not_mem_stripQuotes`: what is made of a text without a line
  feed has none;
* `oneLine_ofText`: a field that is read from such a text has none in its strings;
* `oneLine_of_compile`: neither has a class that is compiled.
-/

namespace DartModels

open Text

namespace Name

theorem newline_not_mem_camelCaseFrom (raised : Bool) {s : List Char} (h : '\n' ∉ s) :
    '\n' ∉ camelCaseFrom raised s := by
  induction s generalizing raised with
  | nil => exact h
  | cons c s ih =>
    rw [List.mem_cons, not_or] at h
    rw [camelCaseFrom]
    split
    · exact ih true h.2
    · rw [List.mem_append, not_or]
      refine ⟨?_, ih false h.2⟩
      split
      · exact not_mem_upper (Ne.symm h.1) (by decide) (by decide)
      · simpa using h.1

theorem newline_not_mem_camelCase {s : List Char} (h : '\n' ∉ s) : '\n' ∉ camelCase s :=
  newline_not_mem_camelCaseFrom false h

theorem newline_not_mem_stripQuotes {s : List Char} (h : '\n' ∉ s) : '\n' ∉ stripQuotes s := by
  have hq : ∀ {q t}, stripQuote q s = some t → '\n' ∉ t := by
    intro q t ht hn
    rw [stripQuote_eq_some_iff] at ht
    exact h (by simp [ht, hn])
  unfold stripQuotes
  cases h₁ : stripQuote '\'' s with
  | some t => exact hq h₁
  | none =>
    cases h₂ : stripQuote '"' s with
    | some t => exact hq h₂
    | none => exact h

end Name

namespace DartType

theorem newline_not_mem_table : ∀ e ∈ table, '\n' ∉ e.2.toList := by decide

/-- The name of a type is on one line if the class referred to is. -/
theorem newline_not_mem_ofToken (token : String) {referenced : Option String}
    (h : ∀ r, referenced = some r → '\n' ∉ r.toList) :
    '\n' ∉ (ofToken token referenced).name.toList := by
  unfold ofToken
  split
  · split
    · exact h _ rfl
    · exact List.not_mem_nil
  · split
    · rename_i n hn
      exact newline_not_mem_table _ (Uppercase.mem_of_lookup_eq_some hn)
    · exact List.not_mem_nil

end DartType

namespace Call

/-- The arguments of a call are part of its text, and nothing if the text is no call. -/
theorem newline_not_mem_arguments {s : List Char} (h : '\n' ∉ s) :
    '\n' ∉ ((ofText? s).getD ⟨[], []⟩).arguments := by
  cases hcall : ofText? s with
  | none => exact List.not_mem_nil
  | some call =>
    obtain ⟨path, _, _, rfl⟩ := ofText?_eq_some hcall
    intro hn
    exact h (List.mem_append_left _ (List.mem_append_right path (List.mem_cons_of_mem '(' hn)))

/-- What a call refers to is part of its arguments, with a suffix. -/
theorem newline_not_mem_referenced {call : Call} {field : String} {referenced : Option String}
    (h : '\n' ∉ call.arguments) (hr : call.referenced field = .ok referenced) :
    ∀ r, referenced = some r → '\n' ∉ r.toList := by
  rintro r rfl
  unfold Call.referenced at hr
  split at hr
  · split at hr
    · cases hr
    · obtain rfl := Option.some.inj (Except.ok.inj hr)
      rw [String.toList_append, String.toList_ofList, List.mem_append, not_or]
      refine ⟨Name.newline_not_mem_stripQuotes fun hn => h ?_, by decide⟩
      exact (firstArgument_isPrefixOf call.arguments).subset (mem_of_mem_trim hn)
  · cases hr

end Call

theorem newline_not_mem_memberNameOf (camelCase : Bool) {name : List Char} (h : '\n' ∉ name) :
    '\n' ∉ memberNameOf camelCase name := by
  unfold memberNameOf
  split
  · exact Name.newline_not_mem_camelCase h
  · exact h

namespace Field

/-- The strings that the source of a class takes from a field have no line feed. -/
structure OneLine (f : Field) : Prop where
  sourceName : '\n' ∉ f.sourceName.toList
  memberName : '\n' ∉ f.memberName.toList
  typeName : '\n' ∉ f.type.name.toList

theorem oneLine_ofCall {name member : List Char} {call : Call} {line : Nat} {f : Field}
    (hname : '\n' ∉ name) (hmember : '\n' ∉ member) (hcall : '\n' ∉ call.arguments)
    (hf : ofCall name member call line = .ok f) : f.OneLine := by
  obtain ⟨referenced, hr, rfl⟩ := ofCall_eq_ok_iff.mp hf
  have htype := DartType.newline_not_mem_ofToken (String.ofList call.token)
    (Call.newline_not_mem_referenced hcall hr)
  exact ⟨by simpa using hname, by simpa using hmember, htype⟩

/-- **A field that is read from one line is on one line.** -/
theorem oneLine_ofText {text : String} {line : Nat} {camelCase : Bool} {f : Field}
    (h : '\n' ∉ text.toList) (hf : ofText text line camelCase = .ok (some f)) : f.OneLine := by
  have hs : '\n' ∉ trim text.toList := fun hn => h (mem_of_mem_trim hn)
  obtain ⟨-, left, right, hc, -, -, hcall⟩ := ofText_eq_some_iff.mp hf
  obtain ⟨hsplit, _⟩ := cut?_eq_some_iff.mp hc
  rw [hsplit, List.mem_append, List.mem_cons, not_or, not_or] at hs
  have hname : '\n' ∉ trim left := fun hn => hs.1 (mem_of_mem_trim hn)
  have harguments := Call.newline_not_mem_arguments fun hn => hs.2.2 (mem_of_mem_trim hn)
  exact oneLine_ofCall hname (newline_not_mem_memberNameOf camelCase hname) harguments hcall

end Field

/-- The strings of a class, as far as its source shows them, have no line feed. -/
structure DartClass.OneLine (c : DartClass) : Prop where
  name : '\n' ∉ c.name.toList
  fields : ∀ f ∈ c.fields, f.OneLine

/-- **A class that is compiled is on one line**, whatever its text is. -/
theorem oneLine_of_compile {text : String} {o : Options} {c : Compilation}
    (h : compile text o = .ok c) : c.model.OneLine := by
  obtain ⟨ho, ds, fs, hds, hfs, rfl⟩ := compile_eq_ok_iff.mp h
  refine ⟨Name.not_mem_of_isIdentifier ho (by decide) (by decide), fun f hf => ?_⟩
  obtain ⟨d, hd, hfrom⟩ := exists_comesFrom hds hfs hf
  exact Field.oneLine_ofText (Declaration.collapsed_of_mem hds d hd).newline hfrom.read

end DartModels
