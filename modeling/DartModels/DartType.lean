/-!
# The Dart types of fields

A field's token decides its type: tokens in `DartType.table` have a native type, and the token
`ForeignKey` has the class of the model that it refers to, whose name is the model's with the
suffix `Model`. Any other token leaves the type unresolved.

Results: a token has a native type exactly if it is in the table (`ofToken_eq_native_iff`), and
whether a reference is given matters to no other token than `ForeignKey`
(`ofToken_of_ne_referenceToken`).
-/

namespace DartModels

/-- The type of a member of a Dart class (`TargetType`). -/
inductive DartType
  /-- A type of Dart's own. -/
  | native (name : String)
  /-- The class of another model. -/
  | reference (name : String)
  /-- A type that is not known. -/
  | unresolved
deriving DecidableEq, Repr

namespace DartType

/-- The type as it is written in Dart; nothing is written for an unresolved type. -/
def name : DartType → String
  | native n => n
  | reference n => n
  | unresolved => ""

/-- Dart's type of texts, which needs no conversion when it is written out. -/
def isString : DartType → Bool
  | native n => n == "String"
  | _ => false

/-- The type is known. -/
def isResolved : DartType → Bool
  | unresolved => false
  | _ => true

/-- The native types by field token (`FIELD_TYPES`). -/
def table : List (String × String) :=
  [("CharField", "String"), ("TextField", "String"), ("TimeField", "String"),
   ("MultiSelectField", "String"), ("LowercaseEmailField", "String"), ("BooleanField", "bool"),
   ("IntegerField", "int"), ("SmallIntegerField", "int"), ("PositiveSmallIntegerField", "int"),
   ("FloatField", "double"), ("DateField", "DateTime")]

/-- The token of a field that refers to another model. -/
def referenceToken : String :=
  "ForeignKey"

/-- What a model's name takes behind it to name its class. -/
def referenceSuffix : String :=
  "Model"

/-- The type that a token stands for (`resolve_target_type`). The class referred to counts for
references only. -/
def ofToken (token : String) (referenced : Option String) : DartType :=
  if token = referenceToken then
    match referenced with
    | some n => reference n
    | none => unresolved
  else
    match table.lookup token with
    | some n => native n
    | none => unresolved

theorem isResolved_eq_false_iff {t : DartType} : t.isResolved = false ↔ t = unresolved := by
  cases t <;> simp [isResolved]

theorem ofToken_referenceToken (referenced : Option String) :
    ofToken referenceToken referenced = (referenced.map reference).getD unresolved := by
  cases referenced <;> rfl

theorem ofToken_of_ne_referenceToken {token : String} (h : token ≠ referenceToken)
    (referenced : Option String) :
    ofToken token referenced = ((table.lookup token).map native).getD unresolved := by
  rw [ofToken.eq_def, if_neg h]
  cases table.lookup token <;> rfl

theorem lookup_table_referenceToken : table.lookup referenceToken = none := by
  decide

theorem lookup_table_eq_some_iff {token n : String} :
    table.lookup token = some n ↔ (token, n) ∈ table := by
  constructor
  · intro h
    obtain ⟨before, behind, hsplit, -⟩ := List.lookup_eq_some_iff.mp h
    rw [hsplit]
    exact List.mem_append_right before List.mem_cons_self
  · intro h
    have hall : ∀ e ∈ table, table.lookup e.1 = some e.2 := by decide
    exact hall _ h

theorem ofToken_eq_native_iff {token n : String} {referenced : Option String} :
    ofToken token referenced = native n ↔ table.lookup token = some n := by
  by_cases h : token = referenceToken
  · subst h
    rw [ofToken_referenceToken, lookup_table_referenceToken]
    cases referenced <;> simp
  · rw [ofToken_of_ne_referenceToken h]
    cases table.lookup token <;> simp

end DartType

end DartModels
