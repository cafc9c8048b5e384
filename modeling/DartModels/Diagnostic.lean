import DartModels.Field.Basic
import DartModels.Json.Literal

/-!
# Diagnostics

What a compilation finds amiss without failing: fields whose type it does not know.
-/

namespace DartModels

/-- A finding that does not stop a compilation. -/
inductive Diagnostic
  /-- The type of a field is not known; its token and line are given. -/
  | unresolvedType (field token : String) (line : Nat)
deriving DecidableEq, Repr

namespace Diagnostic

/-- The finding in words, on one line. -/
def message : Diagnostic → String
  | unresolvedType field token line =>
    "line " ++ toString line ++ ": unknown field type " ++ Json.quote token ++ " for field " ++
      Json.quote field ++ ", emitting an empty Dart type"

/-- The finding about a field, if there is one. -/
def ofField? (f : Field) : Option Diagnostic :=
  if f.type.isResolved then none else some (unresolvedType f.sourceName f.token f.line)

/-- The findings about fields, in their order (`collect_diagnostics`). -/
def ofFields (fs : List Field) : List Diagnostic :=
  fs.filterMap ofField?

end Diagnostic

end DartModels
