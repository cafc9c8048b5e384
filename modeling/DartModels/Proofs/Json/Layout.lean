import DartModels.Json.Value

/-!
# The layout of JSON is unambiguous

A value can be told from its text, whatever follows the text. The first character tells its kind. A
literal ends at its own quote, since no character is escaped to a text that starts with a bare one.
A number ends where the digits do. Behind an item or a member stands a comma if there is another
one, and a line feed if there is none; so arrays and objects are told apart item by item, although
nothing says how long they are.

Results:
* `unescape_escape`, `literal_append_inj`: the first character of what a literal holds, and the
  literal;
* `toDigits_append_inj`: a number;
* `render_append_inj`: a value in front of something that does not go on with digits;
* `pretty_injective`: a value by itself.
-/

namespace DartModels.Json

/-! ## Literals -/

/-- The value of a hexadecimal digit in lower case. -/
def hexValue (c : Char) : Nat :=
  if c.isDigit then c.toNat - '0'.toNat else c.toNat - 'a'.toNat + 10

/-- The character that a letter behind a backslash stands for. -/
def ofLetter? : Char → Option Char
  | '"' => some '"'
  | '\\' => some '\\'
  | 'b' => some '\x08'
  | 'f' => some '\x0c'
  | 'n' => some '\n'
  | 'r' => some '\r'
  | 't' => some '\t'
  | _ => none

/-- Reads the first character of what a literal holds, unless the literal ends there. -/
def unescape : List Char → Option (Char × List Char)
  | '\\' :: 'u' :: '0' :: '0' :: a :: b :: s =>
    some (Char.ofNat (16 * hexValue a + hexValue b), s)
  | '\\' :: c :: s => (ofLetter? c).map (·, s)
  | c :: s => if c = '"' then none else some (c, s)
  | [] => none

theorem hexValue_digitChar : ∀ n < 16, hexValue (Nat.digitChar n) = n := by decide

theorem unescape_of_ne {c : Char} (hb : c ≠ '\\') (hq : c ≠ '"') (s : List Char) :
    unescape (c :: s) = some (c, s) := by
  rw [unescape.eq_def]
  split
  · exact absurd (List.cons.inj ‹_›).1 hb
  · exact absurd (List.cons.inj ‹_›).1 hb
  · obtain ⟨rfl, rfl⟩ := List.cons.inj ‹_›
    exact if_neg hq
  · cases ‹c :: s = []›

/-- **A character is read back from its escape**, whatever follows it. -/
theorem unescape_escape (c : Char) (s : List Char) : unescape (escape c ++ s) = some (c, s) := by
  unfold escape
  -- the seven characters that have a letter
  repeat (split; · subst_vars; rfl)
  rename_i hq hb _ _ _ _ _
  split
  · rename_i hc
    have hhigh := hexValue_digitChar (c.toNat / 16) (by omega)
    have hlow := hexValue_digitChar (c.toNat % 16) (Nat.mod_lt _ (by omega))
    simp only [List.cons_append, List.nil_append, unescape, hhigh, hlow]
    rw [Nat.div_add_mod, Char.ofNat_toNat]
  · exact unescape_of_ne hb hq s

/-- What is written of a text in front of a quote tells the text. -/
theorem flatMap_escape_append_inj {s t u v : List Char}
    (h : s.flatMap escape ++ '"' :: u = t.flatMap escape ++ '"' :: v) : s = t ∧ u = v := by
  induction s generalizing t with
  | nil =>
    cases t with
    | nil => exact ⟨rfl, (List.cons.inj h).2⟩
    | cons d t =>
      have hread := congrArg unescape h
      rw [List.flatMap_cons, List.append_assoc, unescape_escape] at hread
      cases hread
  | cons c s ih =>
    have hread := congrArg unescape h
    rw [List.flatMap_cons, List.append_assoc, unescape_escape] at hread
    cases t with
    | nil => cases hread
    | cons d t =>
      rw [List.flatMap_cons, List.append_assoc, unescape_escape, Option.some.injEq,
        Prod.mk.injEq] at hread
      obtain ⟨rfl, hrest⟩ := hread
      obtain ⟨rfl, rfl⟩ := ih hrest
      exact ⟨rfl, rfl⟩

/-- **A literal ends at its own quote**, and tells the text that it is of. -/
theorem literal_append_inj {s t u v : List Char} (h : literal s ++ u = literal t ++ v) :
    s = t ∧ u = v := by
  simp only [literal, List.cons_append, List.append_assoc, List.nil_append, List.cons.injEq,
    true_and] at h
  exact flatMap_escape_append_inj h

theorem toList_append_inj {s t : String} {u v : List Char}
    (h : literal s.toList ++ u = literal t.toList ++ v) : s = t ∧ u = v :=
  (literal_append_inj h).imp_left String.toList_inj.mp

/-! ## Numbers -/

/-- A text does not go on with a number. -/
def Stops (s : List Char) : Prop :=
  ∀ c, s.head? = some c → c.isDigit = false

theorem stops_cons {c : Char} (hc : c.isDigit = false) (s : List Char) : Stops (c :: s) := by
  intro d hd
  rwa [← Option.some.inj hd]

theorem isDigit_of_mem_toDigits {n : Nat} {c : Char} (h : c ∈ Nat.toDigits 10 n) :
    c.isDigit = true :=
  Nat.isDigit_of_mem_toDigits (by omega) (by omega) h

theorem takeWhile_toDigits (n : Nat) {s : List Char} (hs : Stops s) :
    (Nat.toDigits 10 n ++ s).takeWhile Char.isDigit = Nat.toDigits 10 n := by
  rw [List.takeWhile_append_of_pos fun c => isDigit_of_mem_toDigits]
  cases s with
  | nil => simp
  | cons c s => simp [hs c rfl]

/-- **A number ends where its digits do.** -/
theorem toDigits_append_inj {m n : Nat} {s t : List Char} (hs : Stops s) (ht : Stops t)
    (h : Nat.toDigits 10 m ++ s = Nat.toDigits 10 n ++ t) : m = n ∧ s = t := by
  have hdigits : Nat.toDigits 10 m = Nat.toDigits 10 n := by
    rw [← takeWhile_toDigits m hs, h, takeWhile_toDigits n ht]
  have hmn : m = n := by
    rw [← Nat.ofDigitChars_ten_toDigits (n := m), hdigits, Nat.ofDigitChars_ten_toDigits]
  subst hmn
  exact ⟨rfl, List.append_cancel_left h⟩

/-! ## Values -/

/-- What the first character of a value's text tells; all digits tell the same. -/
def mark : Json → Char
  | .null => 'n'
  | .nat _ => '0'
  | .str _ => '"'
  | .arr _ => '['
  | .obj _ => '\x7b'

theorem mark_eq_of_head? (level : Nat) (v : Json) (s : List Char) :
    (render level v ++ s).head?.map (fun c => if c.isDigit then '0' else c) = some v.mark := by
  cases v with
  | null => rfl
  | nat n =>
    obtain ⟨c, t, ht⟩ := List.exists_cons_of_ne_nil (Nat.toDigits_ne_nil (n := n) (b := 10))
    have hc : c.isDigit = true := isDigit_of_mem_toDigits (ht ▸ List.mem_cons_self)
    simp [render, ht, hc, mark]
  | str t => rfl
  | arr vs => cases vs <;> rfl
  | obj ms => cases ms <;> rfl

/-- The first character tells what kind of value a text is of. -/
theorem mark_eq {level : Nat} {v w : Json} {s t : List Char}
    (h : render level v ++ s = render level w ++ t) : v.mark = w.mark := by
  rw [← Option.some.injEq, ← mark_eq_of_head? level v s, h, mark_eq_of_head?]

/-- A text goes on with a line feed. -/
def Breaks (s : List Char) : Prop :=
  s.head? = some '\n'

theorem Breaks.ne_comma {s : List Char} (hs : Breaks s) {t : List Char} : s ≠ ',' :: t := by
  rintro rfl
  exact absurd hs (by simp [Breaks])

theorem breaks_newLine (level : Nat) (s : List Char) : Breaks (newLine level ++ s) := rfl

theorem stops_renderItems (level : Nat) (vs : List Json) {s : List Char} (hs : Breaks s) :
    Stops (renderItems level vs ++ s) := by
  cases vs with
  | nil =>
    intro c hc
    rw [renderItems, List.nil_append, hs] at hc
    obtain rfl := Option.some.inj hc
    rfl
  | cons v vs => exact stops_cons rfl _

theorem stops_renderMembers (level : Nat) (ms : List (String × Json)) {s : List Char}
    (hs : Breaks s) : Stops (renderMembers level ms ++ s) := by
  cases ms with
  | nil =>
    intro c hc
    rw [renderMembers, List.nil_append, hs] at hc
    obtain rfl := Option.some.inj hc
    rfl
  | cons m ms => exact stops_cons rfl _

mutual

/-- **A text tells the value that it starts with**, and what follows it. -/
theorem render_append_inj {level : Nat} (v w : Json) {s t : List Char} (hs : Stops s)
    (ht : Stops t) (h : render level v ++ s = render level w ++ t) : v = w ∧ s = t := by
  have hmark := mark_eq h
  cases v with
  | null =>
    cases w with
    | null => exact ⟨rfl, List.append_cancel_left h⟩
    | nat | str | arr | obj => simp [mark] at hmark
  | nat m =>
    cases w with
    | nat n =>
      rw [render, render] at h
      obtain ⟨rfl, rfl⟩ := toDigits_append_inj hs ht h
      exact ⟨rfl, rfl⟩
    | null | str | arr | obj => simp [mark] at hmark
  | str a =>
    cases w with
    | str b =>
      rw [render, render] at h
      obtain ⟨rfl, rfl⟩ := toList_append_inj h
      exact ⟨rfl, rfl⟩
    | null | nat | arr | obj => simp [mark] at hmark
  | arr vs =>
    cases w with
    | arr ws =>
      obtain ⟨rfl, rfl⟩ := renderArray_append_inj vs ws h
      exact ⟨rfl, rfl⟩
    | null | nat | str | obj => simp [mark] at hmark
  | obj ms =>
    cases w with
    | obj ns =>
      obtain ⟨rfl, rfl⟩ := renderObject_append_inj ms ns h
      exact ⟨rfl, rfl⟩
    | null | nat | str | arr => simp [mark] at hmark
termination_by structural v

/-- An array ends at the bracket behind the line feed after its last item. -/
theorem renderArray_append_inj {level : Nat} (vs ws : List Json) {s t : List Char}
    (h : render level (.arr vs) ++ s = render level (.arr ws) ++ t) : vs = ws ∧ s = t := by
  cases vs with
  | nil =>
    cases ws with
    | nil => exact ⟨rfl, List.append_cancel_left h⟩
    | cons w ws => simp [render, newLine] at h
  | cons v vs =>
    cases ws with
    | nil => simp [render, newLine] at h
    | cons w ws =>
      simp only [render, List.append_assoc, List.cons_append, List.cons.injEq, true_and] at h
      obtain ⟨rfl, hitems⟩ := render_append_inj v w
        (stops_renderItems (level + 1) vs (breaks_newLine level _))
        (stops_renderItems (level + 1) ws (breaks_newLine level _)) (List.append_cancel_left h)
      obtain ⟨rfl, hend⟩ := renderItems_append_inj vs ws (breaks_newLine level _)
        (breaks_newLine level _) hitems
      exact ⟨rfl, (List.cons.inj (List.append_cancel_left hend)).2⟩
termination_by structural vs

/-- An object ends at the brace behind the line feed after its last member. -/
theorem renderObject_append_inj {level : Nat} (ms ns : List (String × Json)) {s t : List Char}
    (h : render level (.obj ms) ++ s = render level (.obj ns) ++ t) : ms = ns ∧ s = t := by
  cases ms with
  | nil =>
    cases ns with
    | nil => exact ⟨rfl, List.append_cancel_left h⟩
    | cons n ns => simp [render, newLine] at h
  | cons m ms =>
    cases ns with
    | nil => simp [render, newLine] at h
    | cons n ns =>
      simp only [render, List.append_assoc, List.cons_append, List.cons.injEq, true_and] at h
      obtain ⟨rfl, hmembers⟩ := renderMember_append_inj m n
        (stops_renderMembers (level + 1) ms (breaks_newLine level _))
        (stops_renderMembers (level + 1) ns (breaks_newLine level _)) (List.append_cancel_left h)
      obtain ⟨rfl, hend⟩ := renderMembers_append_inj ms ns (breaks_newLine level _)
        (breaks_newLine level _) hmembers
      exact ⟨rfl, (List.cons.inj (List.append_cancel_left hend)).2⟩
termination_by structural ms

/-- The items of an array after its first are told, in front of a line feed. -/
theorem renderItems_append_inj {level : Nat} (vs ws : List Json) {s t : List Char}
    (hs : Breaks s) (ht : Breaks t) (h : renderItems level vs ++ s = renderItems level ws ++ t) :
    vs = ws ∧ s = t := by
  cases vs with
  | nil =>
    cases ws with
    | nil => exact ⟨rfl, h⟩
    | cons w ws => exact absurd h hs.ne_comma
  | cons v vs =>
    cases ws with
    | nil => exact absurd h.symm ht.ne_comma
    | cons w ws =>
      simp only [renderItems, List.append_assoc, List.cons_append, List.cons.injEq, true_and] at h
      obtain ⟨rfl, hrest⟩ := render_append_inj v w (stops_renderItems level vs hs)
        (stops_renderItems level ws ht) (List.append_cancel_left h)
      obtain ⟨rfl, rfl⟩ := renderItems_append_inj vs ws hs ht hrest
      exact ⟨rfl, rfl⟩
termination_by structural vs

/-- A member is told. -/
theorem renderMember_append_inj {level : Nat} (m n : String × Json) {s t : List Char}
    (hs : Stops s) (ht : Stops t) (h : renderMember level m ++ s = renderMember level n ++ t) :
    m = n ∧ s = t := by
  obtain ⟨key, v⟩ := m
  obtain ⟨key', w⟩ := n
  simp only [renderMember, List.append_assoc, List.cons_append] at h
  obtain ⟨rfl, hrest⟩ := toList_append_inj h
  simp only [List.cons.injEq, true_and] at hrest
  obtain ⟨rfl, rfl⟩ := render_append_inj v w hs ht hrest
  exact ⟨rfl, rfl⟩
termination_by structural m

/-- The members of an object after its first are told, in front of a line feed. -/
theorem renderMembers_append_inj {level : Nat} (ms ns : List (String × Json)) {s t : List Char}
    (hs : Breaks s) (ht : Breaks t)
    (h : renderMembers level ms ++ s = renderMembers level ns ++ t) : ms = ns ∧ s = t := by
  cases ms with
  | nil =>
    cases ns with
    | nil => exact ⟨rfl, h⟩
    | cons n ns => exact absurd h hs.ne_comma
  | cons m ms =>
    cases ns with
    | nil => exact absurd h.symm ht.ne_comma
    | cons n ns =>
      simp only [renderMembers, List.append_assoc, List.cons_append, List.cons.injEq, true_and] at h
      obtain ⟨rfl, hrest⟩ := renderMember_append_inj m n (stops_renderMembers level ms hs)
        (stops_renderMembers level ns ht) (List.append_cancel_left h)
      obtain ⟨rfl, rfl⟩ := renderMembers_append_inj ms ns hs ht hrest
      exact ⟨rfl, rfl⟩
termination_by structural ms

end

/-- **Different values have different texts.** -/
theorem pretty_injective : Function.Injective pretty := by
  intro v w h
  have hstops : Stops [] := fun c hc => nomatch hc
  have hrender := String.ofList_injective h
  exact (render_append_inj v w hstops hstops (congrArg (· ++ []) hrender)).1

end DartModels.Json
