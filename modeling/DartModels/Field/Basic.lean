import DartModels.DartType

/-!
# Fields

A `Field` is what one declaration says: the field's name as it is written, which stays the key of
its value in JSON, the name of the Dart member, the token that was called, the class referred to if
the field is a reference, and the Dart type that follows from these.
-/

namespace DartModels

/-- A field of a model (`FieldDeclaration`). -/
structure Field where
  /-- The name in the source, and the key in JSON. -/
  sourceName : String
  /-- The name of the Dart member. -/
  memberName : String
  /-- The field type that the source calls; empty if the source has no call of the known form. -/
  token : String
  /-- The class that a reference field refers to. -/
  referenced : Option String
  type : DartType
  /-- The line that the declaration starts on, counted from one. -/
  line : Nat
deriving DecidableEq, Repr

end DartModels
