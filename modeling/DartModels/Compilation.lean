import DartModels.DartClass
import DartModels.Declaration.Reading
import DartModels.Diagnostic
import DartModels.Field.Parse
import DartModels.Json.Value

/-!
# Compilation

`compile` takes the source of a model to a class of Dart and the diagnostics about its fields, or
to the first error: first of the class name, then of the division into declarations, then of the
declarations one by one. `transform` gives the class's source alone.

A compilation is also written as JSON, with the keys in a fixed order.
-/

namespace DartModels

/-- What a compilation is asked for (`TransformOptions`). -/
structure Options where
  className : String
  /-- Members are named in camel case. -/
  camelCase : Bool
deriving DecidableEq, Repr

/-- A class with the findings about its fields. -/
structure Compilation where
  model : DartClass
  diagnostics : List Diagnostic
deriving DecidableEq, Repr

/-- The class of given fields, with the findings about them. -/
def Compilation.ofFields (className : String) (fields : List Field) : Compilation :=
  ⟨⟨className, fields⟩, Diagnostic.ofFields fields⟩

/-- Compiles the source of a model (`compile_model`). -/
def compile (text : String) (options : Options) : Except SourceError Compilation := do
  unless Name.isIdentifier options.className.toList do
    throw (.invalidClassName options.className)
  let ds ← declarations text
  let fields ← (readFields options.camelCase ds).toExcept
  return .ofFields options.className fields

/-- The source of the class that a model's source compiles to (`transform`). -/
def transform (text : String) (options : Options) : Except SourceError String :=
  (compile text options).map (·.model.source)

/-! ## Compilations as JSON -/

/-- The kind of a type, and its name if it has one. -/
def DartType.toJson : DartType → Json
  | native n => .obj [("kind", .str "native"), ("name", .str n)]
  | reference n => .obj [("kind", .str "reference"), ("name", .str n)]
  | unresolved => .obj [("kind", .str "unresolved")]

/-- All that a field says. -/
def Field.toJson (f : Field) : Json :=
  .obj [("snake_name", .str f.sourceName), ("output_name", .str f.memberName),
    ("source_type_token", .str f.token), ("referenced_type", .ofOption f.referenced),
    ("target_type", f.type.toJson), ("line", .nat f.line)]

/-- A class and its fields. -/
def DartClass.toJson (c : DartClass) : Json :=
  .obj [("name", .str c.name), ("fields", .arr (c.fields.map Field.toJson))]

/-- The kind of a finding and what it is about. -/
def Diagnostic.toJson : Diagnostic → Json
  | unresolvedType field token line =>
    .obj [("kind", .str "unresolved_type"), ("field", .str field), ("token", .str token),
      ("line", .nat line)]

namespace Compilation

/-- A class and the findings about it. -/
def toJson (c : Compilation) : Json :=
  .obj [("class", c.model.toJson), ("diagnostics", .arr (c.diagnostics.map Diagnostic.toJson))]

/-- The indented text of the compilation. -/
def pretty (c : Compilation) : String :=
  c.toJson.pretty

end Compilation

end DartModels
