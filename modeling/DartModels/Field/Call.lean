import DartModels.Name
import DartModels.Text.Blank
import DartModels.Text.Cut
import DartModels.Text.Quoting

/-!
# Calls

The right side of a declaration is a call if it reads `package.….Token(arguments)`: words joined by
dots, with any white space around a dot and before the parenthesis, and a closing parenthesis at the
very end. What the parentheses hold is not looked at, so that a call is recognised by its first
opening parenthesis and its last character.

`firstArgument` is the text of the arguments up to the first comma that stands in no literal and in
no bracket. The three kinds of bracket count alike, and one that closes too much counts for nothing.

Results: a call is the text of its callee, a parenthesis, its arguments and a parenthesis
(`ofText?_eq_some`); the first argument begins the arguments (`firstArgument_isPrefixOf`).
-/

namespace DartModels

open Text

/-- A call of a field type. -/
structure Call where
  /-- The last word before the parenthesis. -/
  token : List Char
  /-- What the parentheses hold. -/
  arguments : List Char
deriving DecidableEq, Repr

namespace Call

/-- The last of the words that dots join, if nothing but words, dots and white space is there. -/
def callee? (path : List Char) : Option (List Char) :=
  let words := (path.splitOn '.').map trim
  if words.all Name.isWord then words.getLast? else none

/-- Reads a text without white space at its ends as a call (`FIELD_CALL`). -/
def ofText? (s : List Char) : Option Call :=
  match cut? '(' s with
  | none => none
  | some (path, rest) =>
    if rest.getLast? = some ')' then (callee? path).map (⟨·, rest.dropLast⟩) else none

/-- Opens a bracket of one of the three kinds. -/
def opensBracket (c : Char) : Bool :=
  c == '(' || c == '[' || c == '\x7b'

/-- Closes a bracket of one of the three kinds. -/
def closesBracket (c : Char) : Bool :=
  c == ')' || c == ']' || c == '\x7d'

/-- The number of open brackets after one more character that stands in no literal. -/
def nextDepth (depth : Nat) (c : Char) : Nat :=
  if opensBracket c then depth + 1 else if closesBracket c then depth - 1 else depth

/-- The first argument, from a place with `depth` brackets open. -/
def firstArgumentFrom (depth : Nat) : Quoting → List Char → List Char
  | _, [] => []
  | .outside, c :: s =>
    if c = ',' ∧ depth = 0 then []
    else c :: firstArgumentFrom (nextDepth depth c) (Quoting.outside.next c) s
  | q, c :: s => c :: firstArgumentFrom depth (q.next c) s

/-- The arguments up to the first comma between them, or all of them (`first_argument`). -/
def firstArgument (arguments : List Char) : List Char :=
  firstArgumentFrom 0 .outside arguments

theorem ofText?_eq_some {s : List Char} {call : Call} (h : ofText? s = some call) :
    ∃ path, '(' ∉ path ∧ callee? path = some call.token ∧
      s = path ++ '(' :: call.arguments ++ [')'] := by
  unfold ofText? at h
  split at h
  · simp at h
  · rename_i path rest hc
    obtain ⟨rfl, hp⟩ := cut?_eq_some_iff.mp hc
    split at h
    · rename_i hl
      obtain ⟨token, ht, rfl⟩ := Option.map_eq_some_iff.mp h
      have hne : rest ≠ [] := by rintro rfl; simp at hl
      rw [List.getLast?_eq_some_getLast hne, Option.some.injEq] at hl
      exact ⟨path, hp, ht, by
        rw [List.append_assoc, List.cons_append, ← hl, List.dropLast_concat_getLast]⟩
    · simp at h

theorem firstArgumentFrom_isPrefixOf (depth : Nat) (q : Quoting) (s : List Char) :
    firstArgumentFrom depth q s <+: s := by
  fun_induction firstArgumentFrom depth q s with
  | case1 => exact List.nil_prefix
  | case2 => exact List.nil_prefix
  | case3 _ _ _ _ ih => exact List.cons_prefix_cons.mpr ⟨rfl, ih⟩
  | case4 _ _ _ _ _ ih => exact List.cons_prefix_cons.mpr ⟨rfl, ih⟩

theorem firstArgument_isPrefixOf (arguments : List Char) : firstArgument arguments <+: arguments :=
  firstArgumentFrom_isPrefixOf 0 .outside arguments

end Call

end DartModels
