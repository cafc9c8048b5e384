import DartModels.Field.Basic

/-!
# Dart classes and their source

A `DartClass` is a name and its fields. Its source has four parts, each with one line a field in
the fields' order: the members, a constructor, a constructor from JSON, and a map to JSON. The keys
of JSON are the names that the fields have in the model's source.

A class without fields has neither parameters nor initializers, and these two parts take one line.
-/

namespace DartModels

/-- A class of Dart for a model (`GeneratedClass`). -/
structure DartClass where
  name : String
  fields : List Field
deriving DecidableEq, Repr

namespace Field

/-- The declaration of the member, which may be null (`field_member`). -/
def memberLine (f : Field) : String :=
  "    " ++ f.type.name ++ "? " ++ f.memberName ++ ";"

/-- The parameter of the constructor (`constructor_entry`). -/
def parameterLine (f : Field) : String :=
  "        this." ++ f.memberName ++ ","

/-- The initializer from JSON (`from_json_entry`), without what separates it from the next. -/
def initializer (f : Field) : String :=
  "        " ++ f.memberName ++ " = json['" ++ f.sourceName ++ "']"

/-- The entry of the map to JSON (`to_json_entry`). Only texts stand in it as they are. -/
def entryLine (f : Field) : String :=
  "        '" ++ f.sourceName ++ "' : " ++ f.memberName ++
    (if f.type.isString then "," else ".toString(),")

end Field

namespace DartClass

/-- The initializers: a comma stands behind each, and a semicolon behind the last. -/
def initializerLines : List Field → List String
  | [] => []
  | [f] => [f.initializer ++ ";"]
  | f :: fs => (f.initializer ++ ",") :: initializerLines fs

/-- The constructor that takes each member by its name. -/
def constructorLines (c : DartClass) : List String :=
  if c.fields.isEmpty then ["    " ++ c.name ++ "();"]
  else ["    " ++ c.name ++ "(\x7b"] ++ c.fields.map Field.parameterLine ++ ["    \x7d);"]

/-- The constructor that takes the members from JSON. -/
def fromJsonLines (c : DartClass) : List String :=
  if c.fields.isEmpty then ["    " ++ c.name ++ ".fromJson(Map<String, dynamic> json);"]
  else
    ("    " ++ c.name ++ ".fromJson(Map<String, dynamic> json) :") :: initializerLines c.fields

/-- The map from keys of JSON to values. -/
def toJsonLines (c : DartClass) : List String :=
  ["    Map<String, dynamic> toJson() => \x7b"] ++ c.fields.map Field.entryLine ++ ["    \x7d;"]

/-- The lines of the class. -/
def sourceLines (c : DartClass) : List String :=
  ["class " ++ c.name ++ " \x7b"] ++ c.fields.map Field.memberLine ++ [""] ++
    c.constructorLines ++ [""] ++ c.fromJsonLines ++ [""] ++ c.toJsonLines ++ ["\x7d"]

/-- The source of the class (`compile_class_to_dart`), a line feed behind every line. -/
def source (c : DartClass) : String :=
  String.join (c.sourceLines.map (· ++ "\n"))

theorem length_initializerLines (fs : List Field) : (initializerLines fs).length = fs.length := by
  fun_induction initializerLines fs <;> simp_all

end DartClass

end DartModels
