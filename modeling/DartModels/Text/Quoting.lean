/-!
# String literals

A reader that walks through a field declaration knows at each character whether it stands in a
string literal. A literal opens with a single or a double quote, closes at the next quote of the
same kind, and a backslash in it takes the character that follows out of consideration.

`Quoting.next` is one step of that reader, `Quoting.after` a walk. The scan for the end of a call
(`CallScanner::scan`) and the search for the end of an argument (`first_argument`) both take it.
-/

namespace DartModels

/-- Where a reader stands with respect to string literals. -/
inductive Quoting
  /-- In no literal. -/
  | outside
  /-- In a literal that this quote closes. -/
  | inside (quote : Char)
  /-- In a literal that this quote closes, directly after a backslash. -/
  | escaped (quote : Char)
deriving DecidableEq, Repr

namespace Quoting

/-- The characters that open a literal. -/
def opens (c : Char) : Bool :=
  c == '\'' || c == '"'

/-- Where the reader stands after one more character. -/
def next : Quoting → Char → Quoting
  | outside, c => if opens c then inside c else outside
  | inside q, c => if c = '\\' then escaped q else if c = q then outside else inside q
  | escaped q, _ => inside q

/-- Where the reader stands after a stretch of text. -/
def after (q : Quoting) (s : List Char) : Quoting :=
  s.foldl next q

@[simp] theorem after_nil (q : Quoting) : q.after [] = q := rfl

@[simp] theorem after_cons (q : Quoting) (c : Char) (s : List Char) :
    q.after (c :: s) = (q.next c).after s := rfl

theorem after_append (q : Quoting) (s t : List Char) : q.after (s ++ t) = (q.after s).after t :=
  List.foldl_append

theorem next_outside_of_not_opens {c : Char} (h : opens c = false) : outside.next c = outside := by
  simp [next, h]

end Quoting

end DartModels
