import DartModels.Json.Literal

/-!
# JSON values and their indented text

Only what a compilation holds: no Booleans, and numbers are naturals. Objects are lists of pairs,
so that their keys are written in the order given.

The text has one item or key a line, two blanks of indentation for each level, one blank after a
colon, and no line feed at its end. An empty array or object stays on its line.
-/

namespace DartModels

/-- A JSON value. -/
inductive Json
  | null
  | nat (n : Nat)
  | str (s : String)
  | arr (items : List Json)
  | obj (members : List (String × Json))
deriving Repr

namespace Json

/-- A text or, where there is none, `null`. -/
def ofOption : Option String → Json
  | none => .null
  | some s => .str s

/-- A line feed and the indentation of a level. -/
def newLine (level : Nat) : List Char :=
  '\n' :: List.replicate (2 * level) ' '

mutual

/-- The text of a value whose first line stands at an indentation level. -/
def render (level : Nat) : Json → List Char
  | .null => ['n', 'u', 'l', 'l']
  | .nat n => Nat.toDigits 10 n
  | .str s => literal s.toList
  | .arr [] => ['[', ']']
  | .arr (v :: vs) =>
    '[' :: newLine (level + 1) ++ (render (level + 1) v ++ (renderItems (level + 1) vs ++
      (newLine level ++ [']'])))
  | .obj [] => ['\x7b', '\x7d']
  | .obj (m :: ms) =>
    '\x7b' :: newLine (level + 1) ++ (renderMember (level + 1) m ++ (renderMembers (level + 1) ms ++
      (newLine level ++ ['\x7d'])))

/-- The items of an array after its first. -/
def renderItems (level : Nat) : List Json → List Char
  | [] => []
  | v :: vs => ',' :: newLine level ++ (render level v ++ renderItems level vs)

/-- A key, a colon and its value. -/
def renderMember (level : Nat) : String × Json → List Char
  | (key, v) => literal key.toList ++ ':' :: ' ' :: render level v

/-- The members of an object after its first. -/
def renderMembers (level : Nat) : List (String × Json) → List Char
  | [] => []
  | m :: ms => ',' :: newLine level ++ (renderMember level m ++ renderMembers level ms)

end

/-- The indented text of a value (`to_string_pretty`). -/
def pretty (v : Json) : String :=
  String.ofList (render 0 v)

end Json

end DartModels
