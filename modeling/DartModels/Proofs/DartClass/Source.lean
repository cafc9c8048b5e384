import DartModels.Proofs.Field.OneLine

/-!
# The source of a class as an encoding

The source of a class has four blocks with one line a field: the members, the parameters, the
initializers and the entries (`Blocks`). Names and types may hold any text but line feeds, also the
punctuation that the source puts around them, so that a line alone does not tell its parts. But each
block tells how many fields there are, a parameter is a member's name and nothing else, and what is
left of the other lines once the name is known is the type, the key and the kind of conversion.

Results:
* `lists_blocks`, `OneLine.lines_source`: the lines of a source are blocks that list the fields;
* `Lists.lines_inj`: lines determine the name of the class and the blocks;
* `Field.shown_eq`, `Lists.shown_eq`: blocks determine what they show of each field;
* `source_faithful`: the source lists the fields and encodes what it shows of them.
-/

namespace DartModels

/-- What the source of a class shows of a field. -/
def Field.shown (f : Field) : String × String × String × Bool :=
  (f.type.name, f.memberName, f.sourceName, f.type.isString)

/-- The blocks of a class's source. -/
@[ext]
structure Blocks where
  members : List String
  parameters : List String
  initializers : List String
  entries : List String

/-- **One line of each block shows a field**: the parameter has the member's name, the member's line
has the type besides, the initializer the key, and the entry the kind of conversion. -/
theorem Field.shown_eq {f f' : Field} {stop : String} (hmember : f.memberLine = f'.memberLine)
    (hparameter : f.parameterLine = f'.parameterLine)
    (hinitializer : f.initializer ++ stop = f'.initializer ++ stop)
    (hentry : f.entryLine = f'.entryLine) : f.shown = f'.shown := by
  have hname : f.memberName = f'.memberName := by
    rwa [parameterLine, parameterLine, String.append_left_inj, String.append_right_inj]
      at hparameter
  have htype : f.type.name = f'.type.name := by
    rwa [memberLine, memberLine, hname, String.append_left_inj, String.append_left_inj,
      String.append_left_inj, String.append_right_inj] at hmember
  have hkey : f.sourceName = f'.sourceName := by
    rwa [String.append_left_inj, initializer, initializer, hname, String.append_left_inj,
      String.append_right_inj] at hinitializer
  have hstring : f.type.isString = f'.type.isString := by
    simp only [entryLine, hname, hkey, String.append_right_inj] at hentry
    cases hf : f.type.isString <;> cases hf' : f'.type.isString <;> simp [hf, hf'] at hentry ⊢
  exact Prod.ext htype (Prod.ext hname (Prod.ext hkey hstring))

namespace Blocks

/-- The lines of the source of a class with this name: a block of parameters and one of initializers
stand in it only if they are not empty. -/
def lines (b : Blocks) (name : String) : List String :=
  ["class " ++ name ++ " \x7b"] ++ b.members ++
    [""] ++ (if b.parameters = [] then ["    " ++ name ++ "();"]
      else ["    " ++ name ++ "(\x7b"] ++ b.parameters ++ ["    \x7d);"]) ++
    [""] ++ (if b.initializers = [] then
        ["    " ++ name ++ ".fromJson(Map<String, dynamic> json);"]
      else ["    " ++ name ++ ".fromJson(Map<String, dynamic> json) :"] ++ b.initializers) ++
    ["", "    Map<String, dynamic> toJson() => \x7b"] ++ b.entries ++ ["    \x7d;", "\x7d"]

/-- Each block has one line for each field, in order. The last initializer ends in a semicolon and
the others in a comma, and the initializer and the entry of a field have the same key. -/
structure Lists (b : Blocks) (fs : List Field) : Prop where
  members : b.members = fs.map fun f => "    " ++ f.type.name ++ "? " ++ f.memberName ++ ";"
  parameters : b.parameters = fs.map fun f => "        this." ++ f.memberName ++ ","
  initializers : b.initializers = fs.mapIdx fun i f =>
    "        " ++ f.memberName ++ " = json['" ++ f.sourceName ++ "']" ++
      if i + 1 = fs.length then ";" else ","
  entries : b.entries = fs.map fun f =>
    "        '" ++ f.sourceName ++ "' : " ++ f.memberName ++
      if f.type.isString then "," else ".toString(),"

end Blocks

namespace DartClass

/-! ## The blocks of a source -/

/-- The blocks that a class has in its source. -/
def blocks (c : DartClass) : Blocks where
  members := c.fields.map Field.memberLine
  parameters := c.fields.map Field.parameterLine
  initializers := initializerLines c.fields
  entries := c.fields.map Field.entryLine

theorem initializerLines_eq (fs : List Field) :
    initializerLines fs =
      fs.mapIdx fun i f => f.initializer ++ if i + 1 = fs.length then ";" else "," := by
  fun_induction initializerLines fs with
  | case1 => rfl
  | case2 f => rfl
  | case3 f fs hne ih =>
    have hlen : fs.length ≠ 0 := fun h => hne (List.length_eq_zero_iff.mp h)
    simp [List.mapIdx_cons, ih, hlen.symm]

/-- **The blocks of a class list its fields.** -/
theorem lists_blocks (c : DartClass) : c.blocks.Lists c.fields where
  members := rfl
  parameters := rfl
  initializers := initializerLines_eq c.fields
  entries := rfl

theorem sourceLines_eq (c : DartClass) : c.sourceLines = c.blocks.lines c.name := by
  obtain ⟨name, fs⟩ := c
  have hlen := length_initializerLines fs
  cases fs with
  | nil => rfl
  | cons f fs =>
    have hne : initializerLines (f :: fs) ≠ [] := fun h => by simp [h] at hlen
    simp [sourceLines, constructorLines, fromJsonLines, toJsonLines, Blocks.lines, blocks, hne]

theorem source_eq (c : DartClass) :
    c.source = String.join ((c.blocks.lines c.name).map (· ++ "\n")) := by
  rw [source, sourceLines_eq]

theorem toList_source (c : DartClass) :
    c.source.toList = Text.unlines (c.sourceLines.map String.toList) := by
  simp [source, Text.unlines, List.flatMap_map]

end DartClass

/-! ## From lines to blocks -/

namespace Blocks

variable {b b' : Blocks} {fs fs' : List Field}

theorem Lists.lengths (h : b.Lists fs) : b.members.length = fs.length ∧
    b.parameters.length = fs.length ∧ b.initializers.length = fs.length ∧
    b.entries.length = fs.length := by
  rw [h.members, h.parameters, h.initializers, h.entries, List.length_map, List.length_map,
    List.length_mapIdx, List.length_map]
  exact ⟨rfl, rfl, rfl, rfl⟩

/-- The lines of a class with fields. -/
theorem lines_of_ne_nil (h : b.Lists fs) (hne : fs ≠ []) (name : String) :
    b.lines name = ("class " ++ name ++ " \x7b") :: (b.members ++
      "" :: ("    " ++ name ++ "(\x7b") :: (b.parameters ++
      "    \x7d);" :: "" :: ("    " ++ name ++ ".fromJson(Map<String, dynamic> json) :") ::
      (b.initializers ++
      "" :: "    Map<String, dynamic> toJson() => \x7b" :: (b.entries ++
      ["    \x7d;", "\x7d"])))) := by
  obtain ⟨-, hp, hi, -⟩ := h.lengths
  have hpos := List.length_pos_iff.mpr hne
  have hparameters : b.parameters ≠ [] := List.length_pos_iff.mp (by omega)
  have hinitializers : b.initializers ≠ [] := List.length_pos_iff.mp (by omega)
  simp [lines, hparameters, hinitializers]

/-- **How many lines there are tells how many fields there are.** -/
theorem Lists.length_lines (h : b.Lists fs) (name : String) :
    (b.lines name).length = if fs = [] then 9 else 4 * fs.length + 10 := by
  obtain ⟨hm, hp, hi, he⟩ := h.lengths
  by_cases hne : fs = []
  · subst hne
    have hparameters : b.parameters = [] := List.length_eq_zero_iff.mp hp
    have hinitializers : b.initializers = [] := List.length_eq_zero_iff.mp hi
    simp [lines, hparameters, hinitializers, hm, he]
  · rw [lines_of_ne_nil h hne, if_neg hne]
    simp only [List.length_cons, List.length_append, List.length_nil, hm, hp, hi, he]
    omega

theorem append_cons_inj {α : Type} {a b c d : List α} {x y : α} (hlen : a.length = c.length)
    (h : a ++ x :: b = c ++ y :: d) : a = c ∧ b = d := by
  obtain ⟨ha, hb⟩ := List.append_inj h hlen
  exact ⟨ha, (List.cons.inj hb).2⟩

/-- **Lines determine the name of the class and the blocks.** -/
theorem Lists.lines_inj (h : b.Lists fs) (h' : b'.Lists fs') {name name' : String}
    (heq : b.lines name = b'.lines name') : name = name' ∧ b = b' := by
  have hhead : "class " ++ name ++ " \x7b" = "class " ++ name' ++ " \x7b" :=
    Option.some.inj (congrArg List.head? heq)
  rw [String.append_left_inj, String.append_right_inj] at hhead
  refine ⟨hhead, ?_⟩
  have hlines := congrArg List.length heq
  rw [h.length_lines, h'.length_lines] at hlines
  by_cases hne : fs = []
  · have hne' : fs' = [] := by
      by_contra hcon
      rw [if_pos hne, if_neg hcon] at hlines
      omega
    subst hne hne'
    exact Blocks.ext (h.members.trans h'.members.symm) (h.parameters.trans h'.parameters.symm)
      (h.initializers.trans h'.initializers.symm) (h.entries.trans h'.entries.symm)
  · have hne' : fs' ≠ [] := by
      intro hcon
      rw [if_neg hne, if_pos hcon] at hlines
      omega
    rw [if_neg hne, if_neg hne'] at hlines
    obtain ⟨hm, hp, hi, he⟩ := h.lengths
    obtain ⟨hm', hp', hi', he'⟩ := h'.lengths
    rw [lines_of_ne_nil h hne, lines_of_ne_nil h' hne'] at heq
    obtain ⟨hmembers, heq⟩ := append_cons_inj (by omega) (List.cons.inj heq).2
    obtain ⟨hparameters, heq⟩ := append_cons_inj (by omega) (List.cons.inj heq).2
    obtain ⟨hinitializers, heq⟩ :=
      append_cons_inj (by omega) (List.cons.inj (List.cons.inj heq).2).2
    obtain ⟨hentries, -⟩ := append_cons_inj (by omega) (List.cons.inj heq).2
    exact Blocks.ext hmembers hparameters hinitializers hentries

/-- **Blocks determine what they show of each field.** -/
theorem Lists.shown_eq (h : b.Lists fs) (h' : b.Lists fs') :
    fs.map Field.shown = fs'.map Field.shown := by
  have hlen : fs.length = fs'.length := h.lengths.1.symm.trans h'.lengths.1
  refine List.ext_getElem (by simpa using hlen) fun i hi hi' => ?_
  rw [List.length_map] at hi hi'
  have hmember := congrArg (·[i]?) (h.members.symm.trans h'.members)
  have hparameter := congrArg (·[i]?) (h.parameters.symm.trans h'.parameters)
  have hinitializer := congrArg (·[i]?) (h.initializers.symm.trans h'.initializers)
  have hentry := congrArg (·[i]?) (h.entries.symm.trans h'.entries)
  simp only [List.getElem?_map, List.getElem?_mapIdx, List.getElem?_eq_getElem hi,
    List.getElem?_eq_getElem hi', Option.map_some, hlen] at hmember hparameter hinitializer hentry
  rw [List.getElem_map, List.getElem_map]
  exact Field.shown_eq (Option.some.inj hmember) (Option.some.inj hparameter)
    (Option.some.inj hinitializer) (Option.some.inj hentry)

end Blocks

/-! ## From a source to lines -/

/-- A line that is read back as it is written. -/
def IsLine (l : String) : Prop :=
  '\n' ∉ l.toList ∧ l.toList.getLast? ≠ some '\r'

instance (l : String) : Decidable (IsLine l) :=
  inferInstanceAs (Decidable (_ ∧ _))

theorem IsLine.append {s t : String} (hs : '\n' ∉ s.toList) (ht : IsLine t) (hne : t ≠ "") :
    IsLine (s ++ t) := by
  refine ⟨?_, ?_⟩
  · rw [String.toList_append, List.mem_append, not_or]
    exact ⟨hs, ht.1⟩
  · have hne' : t.toList ≠ [] := by simpa using hne
    rw [String.toList_append, List.getLast?_append_of_ne_nil _ hne']
    exact ht.2

namespace Field.OneLine

variable {f : Field}

theorem isLine_memberLine (h : f.OneLine) : IsLine f.memberLine :=
  .append (by simp [h.typeName, h.memberName]) (by decide) (by decide)

theorem isLine_parameterLine (h : f.OneLine) : IsLine f.parameterLine :=
  .append (by simp [h.memberName]) (by decide) (by decide)

theorem isLine_initializer (h : f.OneLine) {stop : String} (hstop : stop = "," ∨ stop = ";") :
    IsLine (f.initializer ++ stop) := by
  have hf : '\n' ∉ f.initializer.toList := by simp [initializer, h.memberName, h.sourceName]
  rcases hstop with rfl | rfl
  · exact .append hf (by decide) (by decide)
  · exact .append hf (by decide) (by decide)

theorem isLine_entryLine (h : f.OneLine) : IsLine f.entryLine := by
  have hf : '\n' ∉ ("        '" ++ f.sourceName ++ "' : " ++ f.memberName).toList := by
    simp [h.memberName, h.sourceName]
  unfold entryLine
  split
  · exact .append hf (by decide) (by decide)
  · exact .append hf (by decide) (by decide)

end Field.OneLine

namespace DartClass

variable {c : DartClass}

theorem isLine_initializerLines {fs : List Field} (h : ∀ f ∈ fs, f.OneLine) :
    ∀ l ∈ initializerLines fs, IsLine l := by
  fun_induction initializerLines fs with
  | case1 => exact fun l hl => absurd hl List.not_mem_nil
  | case2 f =>
    rw [List.forall_mem_singleton] at h ⊢
    exact h.isLine_initializer (Or.inr rfl)
  | case3 f fs _ ih =>
    rw [List.forall_mem_cons] at h ⊢
    exact ⟨h.1.isLine_initializer (Or.inl rfl), ih h.2⟩

theorem OneLine.isLine_name (h : c.OneLine) {s t : String} (hs : '\n' ∉ s.toList) (ht : IsLine t)
    (hne : t ≠ "") : IsLine (s ++ c.name ++ t) :=
  .append (by simp [hs, h.name]) ht hne

/-- **No line of a source breaks**, nor does its end. -/
theorem OneLine.isLine_sourceLines (h : c.OneLine) : ∀ l ∈ c.sourceLines, IsLine l := by
  have hconstructor : ∀ l ∈ c.constructorLines, IsLine l := by
    unfold constructorLines
    split
    · rw [List.forall_mem_singleton]
      exact h.isLine_name (by decide) (by decide) (by decide)
    · simp only [List.forall_mem_append, List.forall_mem_singleton, List.forall_mem_map]
      exact ⟨⟨h.isLine_name (by decide) (by decide) (by decide),
        fun f hf => (h.fields f hf).isLine_parameterLine⟩, by decide⟩
  have hfromJson : ∀ l ∈ c.fromJsonLines, IsLine l := by
    unfold fromJsonLines
    split
    · rw [List.forall_mem_singleton]
      exact h.isLine_name (by decide) (by decide) (by decide)
    · rw [List.forall_mem_cons]
      exact ⟨h.isLine_name (by decide) (by decide) (by decide), isLine_initializerLines h.fields⟩
  have htoJson : ∀ l ∈ c.toJsonLines, IsLine l := by
    simp only [toJsonLines, List.forall_mem_append, List.forall_mem_singleton, List.forall_mem_map]
    exact ⟨⟨by decide, fun f hf => (h.fields f hf).isLine_entryLine⟩, by decide⟩
  simp only [sourceLines, List.forall_mem_append, List.forall_mem_singleton, List.forall_mem_map]
  exact ⟨⟨⟨⟨⟨⟨⟨⟨h.isLine_name (by decide) (by decide) (by decide),
    fun f hf => (h.fields f hf).isLine_memberLine⟩, by decide⟩, hconstructor⟩, by decide⟩,
    hfromJson⟩, by decide⟩, htoJson⟩, by decide⟩

/-- **The lines of a source are those that it is written from.** -/
theorem OneLine.lines_source (h : c.OneLine) :
    Text.lines c.source.toList = c.sourceLines.map String.toList := by
  rw [toList_source]
  refine Text.lines_unlines ?_ ?_
  · exact List.forall_mem_map.mpr fun l hl => (h.isLine_sourceLines l hl).1
  · exact List.forall_mem_map.mpr fun l hl => (h.isLine_sourceLines l hl).2

end DartClass

/-- **The source of a class is a faithful encoding of it.** If the class has no line feed in its
strings, the lines of its source are four blocks, each with one line for each field, in order; the
initializers end in commas and the last one in a semicolon, and the initializer and the entry of a
field have its name in the model's source for a key. Two such classes with the same source have the
same name, and the same types, members, keys and conversions of their fields. And all classes that
are compiled are of this kind. -/
theorem source_faithful :
    (∀ c : DartClass, c.OneLine → ∃ b : Blocks,
        c.source = String.join ((b.lines c.name).map (· ++ "\n")) ∧
        Text.lines c.source.toList = (b.lines c.name).map String.toList ∧ b.Lists c.fields) ∧
      (∀ c c' : DartClass, c.OneLine → c'.OneLine → c.source = c'.source →
        c.name = c'.name ∧ c.fields.map Field.shown = c'.fields.map Field.shown) ∧
      ∀ (text : String) (o : Options) (c : Compilation), compile text o = .ok c →
        c.model.OneLine := by
  refine ⟨fun c hc => ⟨c.blocks, c.source_eq, ?_, c.lists_blocks⟩, fun c c' hc hc' h => ?_,
    fun text o c => oneLine_of_compile⟩
  · rw [hc.lines_source, c.sourceLines_eq]
  · have hlines : c.sourceLines.map String.toList = c'.sourceLines.map String.toList := by
      rw [← hc.lines_source, ← hc'.lines_source, h]
    have hinj : Function.Injective String.toList := fun s t => String.toList_inj.mp
    have heq := List.map_injective_iff.mpr hinj hlines
    rw [c.sourceLines_eq, c'.sourceLines_eq] at heq
    obtain ⟨hname, hblocks⟩ := c.lists_blocks.lines_inj c'.lists_blocks heq
    have hlists := c'.lists_blocks
    rw [← hblocks] at hlists
    exact ⟨hname, c.lists_blocks.shown_eq hlists⟩

/-- Two fields with the same member's line, of which a part belongs to the type of one and to the
name of the other, and a class that is compiled. -/
theorem source_faithful_punctuation :
    (DartClass.mk "M" [⟨"k", "c", "F", none, .reference "A? b", 1⟩]).source ≠
        (DartClass.mk "M" [⟨"k", "b? c", "F", none, .reference "A", 1⟩]).source ∧
      (∃ b : Blocks, b.Lists [⟨"k", "b? c", "F", none, .reference "A", 1⟩] ∧
        b.members = ["    A? b? c;"] ∧ b.initializers = ["        b? c = json['k'];"]) ∧
      (DartClass.mk "A" [⟨"a", "a", "CharField", none, .native "String", 1⟩]).OneLine := by
  have hc : (DartClass.mk "M" [⟨"k", "c", "F", none, .reference "A? b", 1⟩]).OneLine :=
    ⟨by decide, List.forall_mem_singleton.mpr ⟨by decide, by decide, by decide⟩⟩
  have hc' : (DartClass.mk "M" [⟨"k", "b? c", "F", none, .reference "A", 1⟩]).OneLine :=
    ⟨by decide, List.forall_mem_singleton.mpr ⟨by decide, by decide, by decide⟩⟩
  refine ⟨fun h => ?_, ?_, ?_⟩
  · exact absurd (source_faithful.2.1 _ _ hc hc' h).2 (by decide)
  · obtain ⟨b, _, _, hb⟩ := source_faithful.1 _ hc'
    exact ⟨b, hb, hb.members, hb.initializers⟩
  · exact source_faithful.2.2 "a = CharField()" ⟨"A", true⟩ ⟨_, []⟩ rfl

end DartModels
