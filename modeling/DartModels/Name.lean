import DartModels.Text.Uppercase

/-!
# Names

What counts as a name in a model's source (`isWord`, ASCII letters, digits and underscores) and in
Dart (`isIdentifier`, with the dollar sign besides), how a name is put into camel case, and how a
quoted name loses its quotes.

Results:
* `camelCase` keeps a text without underscores, forgets an underscore at the end, and raises the
  character that follows one (`camelCase_of_not_mem`, `camelCase_concat_underscore`,
  `camelCase_append_underscore_cons`);
* nothing is left of a text exactly if it consists of underscores (`camelCase_eq_nil_iff`).
-/

namespace DartModels.Name

open Text

/-- The characters that may start a word of the source. -/
def startsWord (c : Char) : Bool :=
  c.isAlpha || c == '_'

/-- The characters that may continue a word of the source. -/
def continuesWord (c : Char) : Bool :=
  c.isAlphanum || c == '_'

/-- A word of the source: the name of a module, a class or a field type. -/
def isWord : List Char → Bool
  | [] => false
  | c :: s => startsWord c && s.all continuesWord

/-- An identifier of Dart (`is_dart_identifier`). -/
def isIdentifier : List Char → Bool
  | [] => false
  | c :: s => (startsWord c || c == '$') && s.all fun d => continuesWord d || d == '$'

/-! ## Camel case -/

/-- Camel case of a text that stands directly after an underscore, or does not. -/
def camelCaseFrom (raised : Bool) : List Char → List Char
  | [] => []
  | c :: s =>
    if c = '_' then camelCaseFrom true s
    else (if raised then upper c else [c]) ++ camelCaseFrom false s

theorem camelCaseFrom_nil (raised : Bool) : camelCaseFrom raised [] = [] := rfl

theorem camelCaseFrom_cons (raised : Bool) (c : Char) (s : List Char) :
    camelCaseFrom raised (c :: s) =
      if c = '_' then camelCaseFrom true s
      else (if raised then upper c else [c]) ++ camelCaseFrom false s := rfl

/-- Drops the underscores of a name and puts the character after each, or after several in a row,
into upper case. All other characters keep their case (`to_camel_case`). -/
def camelCase (s : List Char) : List Char :=
  camelCaseFrom false s

theorem camelCaseFrom_false_of_not_mem {w : List Char} (h : '_' ∉ w) :
    camelCaseFrom false w = w := by
  induction w with
  | nil => rfl
  | cons c w ih =>
    rw [List.mem_cons, not_or] at h
    simp [camelCaseFrom_cons, Ne.symm h.1, ih h.2]

theorem camelCaseFrom_concat_underscore (raised : Bool) (a : List Char) :
    camelCaseFrom raised (a ++ ['_']) = camelCaseFrom raised a := by
  induction a generalizing raised with
  | nil => simp [camelCaseFrom_nil, camelCaseFrom_cons]
  | cons c a ih => simp only [List.cons_append, camelCaseFrom_cons, ih]

theorem camelCaseFrom_append_underscore (raised : Bool) (a b : List Char) :
    camelCaseFrom raised (a ++ '_' :: b) = camelCaseFrom raised a ++ camelCaseFrom true b := by
  induction a generalizing raised with
  | nil => simp [camelCaseFrom_nil, camelCaseFrom_cons]
  | cons c a ih =>
    simp only [List.cons_append, camelCaseFrom_cons, ih]
    split <;> simp

theorem camelCaseFrom_eq_nil_iff {raised : Bool} {s : List Char} :
    camelCaseFrom raised s = [] ↔ ∀ c ∈ s, c = '_' := by
  induction s generalizing raised with
  | nil => simp [camelCaseFrom_nil]
  | cons c s ih =>
    rw [camelCaseFrom_cons, List.forall_mem_cons]
    split
    · rename_i h
      rw [ih]
      simp [h]
    · rename_i h
      refine iff_of_false (fun hnil => ?_) fun hall => h hall.1
      split at hnil
      · exact upper_ne_nil c (List.append_eq_nil_iff.mp hnil).1
      · exact absurd (List.append_eq_nil_iff.mp hnil).1 (List.cons_ne_nil c [])

theorem camelCase_eq_nil_iff {s : List Char} : camelCase s = [] ↔ ∀ c ∈ s, c = '_' :=
  camelCaseFrom_eq_nil_iff

theorem camelCase_of_not_mem {w : List Char} (h : '_' ∉ w) : camelCase w = w :=
  camelCaseFrom_false_of_not_mem h

theorem camelCase_concat_underscore (a : List Char) : camelCase (a ++ ['_']) = camelCase a :=
  camelCaseFrom_concat_underscore false a

theorem camelCase_append_underscore_cons (a w : List Char) {c : Char} (hc : c ≠ '_')
    (hw : '_' ∉ w) : camelCase (a ++ '_' :: c :: w) = camelCase a ++ upper c ++ w := by
  simp [camelCase, camelCaseFrom_append_underscore, camelCaseFrom_cons, hc,
    camelCaseFrom_false_of_not_mem hw]

/-! ## Quotes -/

/-- Removes a quote from both ends, if it stands at both. -/
def stripQuote (q : Char) (s : List Char) : Option (List Char) :=
  if 2 ≤ s.length ∧ s.head? = some q ∧ s.getLast? = some q then some s.tail.dropLast else none

/-- Removes one pair of equal quotes, single or double, around a text (`strip_quotes`). -/
def stripQuotes (s : List Char) : List Char :=
  ((stripQuote '\'' s).or (stripQuote '"' s)).getD s

theorem stripQuote_eq_some_iff {q : Char} {s t : List Char} :
    stripQuote q s = some t ↔ s = q :: t ++ [q] := by
  unfold stripQuote
  constructor
  · intro h
    split at h
    · rename_i hs
      obtain ⟨hl, hh, ht⟩ := hs
      cases s with
      | nil => simp at hl
      | cons c s =>
        have hne : s ≠ [] := by rintro rfl; simp at hl
        simp only [List.head?_cons, Option.some.injEq] at hh
        rw [List.getLast?_cons_of_ne_nil hne] at ht
        obtain rfl := hh
        rw [← Option.some.inj h, List.tail_cons, List.cons_append]
        rw [List.getLast?_eq_some_getLast hne, Option.some.injEq] at ht
        rw [← ht, List.dropLast_concat_getLast]
    · simp at h
  · rintro rfl
    rw [if_pos ⟨by simp, rfl, List.getLast?_concat⟩]
    simp

end DartModels.Name
