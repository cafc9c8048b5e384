import DartModels.Proofs.Compilation.Stages
import DartModels.Proofs.Declaration.Collapsing
import DartModels.Proofs.Field.Outcome

/-!
# Where fields come from

A division of a text into declarations and the reading of a declaration each look for a name and an
equals sign, the one in a line of the text and the other in what the declaration's lines collapse
to. They find the same, so that each declaration gives a field with the name on its line, or an
error about this name.

Results:
* `outcome_ofDeclaration`: what becomes of a declaration of a text;
* `compile_provenance`: the fields of a compilation are one for each declaration, in order.
-/

namespace DartModels

open Text

/-- A line of a text has an equals sign, and `name` before the first one. -/
def NamedOn (text : String) (n : Nat) (name : List Char) : Prop :=
  ∃ left right, (n, left ++ '=' :: right) ∈ numberedLines text.toList ∧ '=' ∉ left ∧
    trim left = name

namespace Declaration

/-- The first line of a declaration is the line of the text that has its number. -/
theorem mem_number_of_block {n : Nat} (a : List (List Char)) (l : List Char)
    (block b : List (List Char)) : (n + a.length, l) ∈ number n (a ++ l :: block ++ b) := by
  rw [mem_number]
  refine ⟨Nat.le_add_right n a.length, ?_⟩
  rw [Nat.add_sub_cancel_left, List.append_assoc, List.getElem?_append_right (Nat.le_refl _),
    Nat.sub_self]
  rfl

/-- **A declaration has the name on its line**, and its text has it before the first equals sign. -/
theorem exists_name {text : String} {ds : List Declaration} (h : declarations text = .ok ds)
    {d : Declaration} (hd : d ∈ ds) :
    ∃ left right, NamedOn text d.line (trim left) ∧
      cut? '=' (trim d.text.toList) = some (left, right) := by
  obtain ⟨a, block, b, hls, hline, hb⟩ := exists_block (readLines_eq_ok_iff.mp h) d hd
  obtain ⟨name, head, later, v, rfl, hname, _, ht, _⟩ := declares_split hb
  have hstart : '=' ∉ trimStart name := fun hm => hname (mem_of_mem_trimStart hm)
  refine ⟨trimStart name, v ++ [')'], ⟨name, head, ?_, hname, (trim_trimStart name).symm⟩, ?_⟩
  · rw [numberedLines_eq, hls, hline]
    exact mem_number_of_block a _ later b
  · rw [(collapsed_of_mem h d hd).trimmed.trim_eq, ht, cut?_append hstart]

/-- **What becomes of a declaration of a text**: a field of the name on its line, or an error about
this name. -/
theorem outcome_ofDeclaration {text : String} {ds : List Declaration}
    (h : declarations text = .ok ds) {d : Declaration} (hd : d ∈ ds) (camelCase : Bool) :
    ∃ name, NamedOn text d.line name ∧
      Outcome name d.line camelCase (Field.ofDeclaration camelCase d) := by
  obtain ⟨left, right, hnamed, hc⟩ := exists_name h hd
  exact ⟨trim left, hnamed, outcome_ofText (collapsed_of_mem h d hd).not_void hc d.line camelCase⟩

end Declaration

/-- A field of a compilation is what a declaration is read as, on its line and with its name. -/
structure ComesFrom (text : String) (camelCase : Bool) (d : Declaration) (f : Field) : Prop where
  read : Field.ofDeclaration camelCase d = .ok (some f)
  line : f.line = d.line
  named : NamedOn text f.line f.sourceName.toList

open Declaration in
/-- One field for each declaration. -/
theorem forall₂_comesFrom {text : String} {ds : List Declaration} {camelCase : Bool}
    {fs : List Field} (h : declarations text = .ok ds)
    (hfs : (readFields camelCase ds).toExcept = .ok fs) :
    List.Forall₂ (ComesFrom text camelCase) ds fs := by
  have hout := fun d hd => outcome_ofDeclaration (d := d) h hd camelCase
  have hread := (Progress.ofList_eq_ok_iff fun d hd => by
    obtain ⟨_, _, ho⟩ := hout d hd
    exact ho.ne_none).mp hfs
  refine ((List.forall₂_and_left ds fs).mpr ⟨hout, hread⟩).imp fun d f hdf => ?_
  obtain ⟨⟨name, hnamed, ho⟩, hdf⟩ := hdf
  rw [hdf] at ho
  obtain ⟨hsource, hline⟩ := ho.eq_of_field
  refine ⟨hdf, hline, ?_⟩
  rw [hline, hsource, String.toList_ofList]
  exact hnamed

/-- Every field is that of a declaration. -/
theorem exists_comesFrom {text : String} {ds : List Declaration} {camelCase : Bool}
    {fs : List Field} (h : declarations text = .ok ds)
    (hfs : (readFields camelCase ds).toExcept = .ok fs) {f : Field} (hf : f ∈ fs) :
    ∃ d ∈ ds, ComesFrom text camelCase d f := by
  have hall := forall₂_comesFrom h hfs
  obtain ⟨i, rfl⟩ := List.mem_iff_get.mp hf
  have hlt : i < ds.length := by
    rw [hall.length_eq]
    exact i.isLt
  exact ⟨_, List.get_mem ds ⟨i, hlt⟩, hall.get hlt i.isLt⟩

/-- Every field of a compilation is read from a text. -/
theorem exists_ofText {text : String} {o : Options} {c : Compilation}
    (h : compile text o = .ok c) {f : Field} (hf : f ∈ c.model.fields) :
    ∃ t n, Field.ofText t n o.camelCase = .ok (some f) := by
  obtain ⟨_, ds, fs, hds, hfs, rfl⟩ := compile_eq_ok_iff.mp h
  obtain ⟨d, -, hd⟩ := exists_comesFrom hds hfs hf
  exact ⟨d.text, d.line, hd.read⟩

open Declaration in
/-- **No declaration is dropped, read twice or misattributed.** A compilation has one field for each
declaration of the text, in the same order, on its line and with the name on this line, and no two
on one line. And whatever becomes of a declaration of a text, it is not passed over and does not
lack an assignment: it gives a field of the name on its line, or an error because this name is
empty, in the source or in camel case, or because a reference names no model. -/
theorem compile_provenance (text : String) (o : Options) :
    (∀ c, compile text o = .ok c → ∃ ds, declarations text = .ok ds ∧
        List.Forall₂ (ComesFrom text o.camelCase) ds c.model.fields ∧
        (c.model.fields.map (·.line)).Pairwise (· < ·)) ∧
      ∀ ds, declarations text = .ok ds → ∀ d ∈ ds, ∀ camelCase,
        Field.ofDeclaration camelCase d ≠ .ok none ∧
        (∀ s n, Field.ofDeclaration camelCase d ≠ .error (.missingAssignment s n)) ∧
        ∃ name, NamedOn text d.line name ∧
          Outcome name d.line camelCase (Field.ofDeclaration camelCase d) := by
  constructor
  · intro c hc
    obtain ⟨_, ds, fs, hds, hfs, rfl⟩ := compile_eq_ok_iff.mp hc
    have hall := forall₂_comesFrom hds hfs
    refine ⟨ds, hds, hall, ?_⟩
    have hlines : ds.map (·.line) = fs.map (·.line) := by
      rw [← List.forall₂_eq_eq_eq, List.forall₂_map_left_iff, List.forall₂_map_right_iff]
      exact hall.imp fun d f hdf => hdf.line.symm
    change (fs.map (·.line)).Pairwise (· < ·)
    rw [← hlines, List.pairwise_map]
    exact pairwise_line (readLines_eq_ok_iff.mp hds)
  · intro ds hds d hd camelCase
    obtain ⟨name, hnamed, ho⟩ := outcome_ofDeclaration hds hd camelCase
    exact ⟨ho.ne_none, ho.ne_missingAssignment, name, hnamed, ho⟩

/-- A name with a number sign and a quote, a call with an equals sign on its second line, and a name
of underscores, of which nothing is left in camel case. -/
theorem compile_provenance_two :
    (∃ ds, declarations "# x = 1\na#' = F(\n'=')\n\n__ = G()" = .ok ds ∧
        List.Forall₂ (ComesFrom "# x = 1\na#' = F(\n'=')\n\n__ = G()" false) ds
          [⟨"a#'", "a#'", "F", none, .unresolved, 2⟩, ⟨"__", "__", "G", none, .unresolved, 5⟩]) ∧
      ∃ name, NamedOn "# x = 1\na#' = F(\n'=')\n\n__ = G()" 5 name ∧
        Outcome name 5 true (.error ((Fault.emptyMemberName "__").onLine 5)) := by
  have hc : compile "# x = 1\na#' = F(\n'=')\n\n__ = G()" ⟨"A", false⟩ =
      .ok ⟨⟨"A", [⟨"a#'", "a#'", "F", none, .unresolved, 2⟩,
        ⟨"__", "__", "G", none, .unresolved, 5⟩]⟩,
        [.unresolvedType "a#'" "F" 2, .unresolvedType "__" "G" 5]⟩ := rfl
  have hd : declarations "# x = 1\na#' = F(\n'=')\n\n__ = G()" =
      .ok [⟨"a#' = F( '=')", 2⟩, ⟨"__ = G()", 5⟩] := rfl
  have hr : Field.ofDeclaration true ⟨"__ = G()", 5⟩ =
      .error ((Fault.emptyMemberName "__").onLine 5) := rfl
  obtain ⟨ds, hds, hall, _⟩ := (compile_provenance _ _).1 _ hc
  obtain ⟨_, _, name, hnamed, ho⟩ :=
    (compile_provenance _ ⟨"A", true⟩).2 _ hd ⟨"__ = G()", 5⟩ (by simp) true
  rw [hr] at ho
  exact ⟨⟨ds, hds, hall⟩, name, hnamed, ho⟩

end DartModels
