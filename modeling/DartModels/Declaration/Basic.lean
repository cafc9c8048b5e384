/-!
# Declarations

A model's source is a sequence of declarations `name = package.Token(arguments)`, each of which
may spread over several lines while its call is open. A `Declaration` is one of them on a single
line, with the number of the line that it starts on.
-/

namespace DartModels

/-- One declaration, collapsed onto a single line (`Span`). -/
structure Declaration where
  text : String
  /-- The line that it starts on, counted from one. -/
  line : Nat
deriving DecidableEq, Repr

end DartModels
