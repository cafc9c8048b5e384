import DartModels.Json.Literal

/-!
# What can be wrong with the source of a model

A `Fault` is a cause for which a declaration is malformed; `Fault.message` words it, and
`Fault.onLine` makes it an error of a line. A `SourceError` is what a reader of a model stops with:
a malformed declaration, a line that assigns nothing, a reference without a model, or a class name
that is no name in Dart.
-/

namespace DartModels

/-- What a reader of a model stops with (`ConvertError`). Lines are counted from one. -/
inductive SourceError
  /-- A declaration cannot be read, for the reason given. -/
  | malformed (reason : String) (line : Nat)
  /-- A line that should start a declaration has no equals sign. -/
  | missingAssignment (text : String) (line : Nat)
  /-- A reference field names no model. -/
  | missingReference (field : String)
  /-- The class name is no identifier. -/
  | invalidClassName (name : String)
deriving DecidableEq, Repr

/-- Why a declaration is malformed. -/
inductive Fault
  /-- A closing parenthesis before any that opens. -/
  | unmatchedParenthesis
  /-- Text after the parenthesis that closes the call. -/
  | textAfterCall (text : String)
  /-- A string literal that its line does not close. -/
  | unterminatedLiteral
  /-- No parenthesis opens on the first line, which is given. -/
  | noCall (line : String)
  /-- The text ends before the call does; the first line of the declaration is given. -/
  | unclosedCall (start : String)
  /-- Nothing stands before the equals sign. -/
  | missingFieldName
  /-- The field's name consists of underscores, and nothing is left of it in camel case. -/
  | emptyMemberName (field : String)
deriving DecidableEq, Repr

namespace Fault

/-- The fault in words; texts from the source are quoted. -/
def message : Fault → String
  | unmatchedParenthesis => "Unmatched \")\""
  | textAfterCall text => "Unexpected text " ++ Json.quote text ++ " after declaration"
  | unterminatedLiteral => "Unterminated string literal"
  | noCall line => "Expected a field call after \"=\" in " ++ Json.quote line
  | unclosedCall start => "Unclosed \"(\" in declaration " ++ Json.quote start
  | missingFieldName => "Missing field name before \"=\""
  | emptyMemberName field =>
    "Field name " ++ Json.quote field ++ " is empty after camelCase conversion"

/-- The fault as an error of a line (`utils::error`). -/
def onLine (fault : Fault) (line : Nat) : SourceError :=
  .malformed fault.message line

end Fault

/-- The error in words; texts from the source stand as they are. -/
def SourceError.message : SourceError → String
  | malformed reason line => "Malformed input at line " ++ toString line ++ ": " ++ reason
  | missingAssignment text line =>
    "Missing \"=\" in declaration at line " ++ toString line ++ ": " ++ text
  | missingReference field => "ForeignKey field \"" ++ field ++ "\" has no referenced model"
  | invalidClassName name => "Invalid class name \"" ++ name ++ "\""

end DartModels
