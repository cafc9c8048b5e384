import DartModels.Declaration.Basic
import DartModels.Field.Basic
import DartModels.Field.Call
import DartModels.Progress
import DartModels.SourceError
import DartModels.Text.Cut
import DartModels.Text.Void

/-!
# From declarations to fields

A declaration's text, trimmed, has the field's name before its first equals sign and a call behind
it. A void text is no declaration. A right side that is no call leaves the token empty and the type
unresolved, which is no error; a reference must name a model in its first argument, with or without
quotes.
-/

namespace DartModels

open Text

/-- A field is named in Dart as in the source, or in camel case. -/
def memberNameOf (camelCase : Bool) (name : List Char) : List Char :=
  if camelCase then Name.camelCase name else name

/-- The class that the call in a field refers to: none, unless it is a reference, and then the class
of the model that its first argument names. -/
def Call.referenced (call : Call) (field : String) : Except SourceError (Option String) :=
  if String.ofList call.token = DartType.referenceToken then
    match Name.stripQuotes (trim (firstArgument call.arguments)) with
    | [] => .error (.missingReference field)
    | model => .ok (some (String.ofList model ++ DartType.referenceSuffix))
  else .ok none

namespace Field

/-- The field of a name, the name of its member and a call. -/
def ofCall (name member : List Char) (call : Call) (line : Nat) : Except SourceError Field :=
  let sourceName := String.ofList name
  let token := String.ofList call.token
  (call.referenced sourceName).map fun referenced =>
    { sourceName, memberName := String.ofList member, token, referenced,
      type := DartType.ofToken token referenced, line }

/-- Reads the text of a declaration as a field (`parse_declaration`). There is none in a void
text. -/
def ofText (text : String) (line : Nat) (camelCase : Bool) : Except SourceError (Option Field) :=
  if isVoid text.toList then .ok none
  else
    let s := trim text.toList
    match cut? '=' s with
    | none => .error (.missingAssignment (String.ofList s) line)
    | some (left, right) =>
      let name := trim left
      let member := memberNameOf camelCase name
      if name = [] then .error (Fault.missingFieldName.onLine line)
      else if member = [] then
        .error ((Fault.emptyMemberName (String.ofList name)).onLine line)
      else
        let call := (Call.ofText? (trim right)).getD ⟨[], []⟩
        (ofCall name member call line).map some

/-- Reads a declaration as a field. -/
def ofDeclaration (camelCase : Bool) (d : Declaration) : Except SourceError (Option Field) :=
  ofText d.text d.line camelCase

end Field

/-- The fields of declarations, up to the first error (the loop of `compile_model`). -/
def readFields (camelCase : Bool) (ds : List Declaration) : Progress SourceError Field :=
  .ofList (Field.ofDeclaration camelCase) ds

end DartModels
