import DartModels.Compilation

/-!
# The log

What a run reports about itself, on its error stream: events with a level, the part of the program
that they come from, a message, and what they are about. The verbosity decides from which level on
events are written, unless the environment does, and whether their part is named (`init_logging`).

How an event is written is up to the system. An event therefore keeps its values apart, and says of
each how it is recorded.
-/

namespace DartModels.Command

/-- How much an event matters. -/
inductive Level
  | warn
  | info
  | debug
  | trace
deriving DecidableEq, Repr

/-- How the log is set up. -/
structure Logging where
  /-- The level of the events that matter least and are written. -/
  level : Level
  /-- The part of the program is named. -/
  namesOrigin : Bool
deriving DecidableEq, Repr

/-- The set-up for a verbosity (`init_logging`). -/
def Logging.ofVerbosity (verbosity : Nat) : Logging where
  level := match verbosity with
    | 0 => .warn
    | 1 => .info
    | 2 => .debug
    | _ => .trace
  namesOrigin := 2 ≤ verbosity

/-- What an event is about. -/
inductive Event.Value
  | number (n : Nat)
  /-- A text that stands in the log by itself. -/
  | plain (text : String)
  /-- A text that is told from its surroundings. -/
  | delimited (text : String)
deriving DecidableEq, Repr

/-- Something that happens in a run. -/
structure Event where
  level : Level
  /-- The part of the program that reports it. -/
  origin : String
  message : String
  /-- What it is about, by name. -/
  details : List (String × Event.Value)
deriving DecidableEq, Repr

namespace Event

/-! ## Events of a compilation -/

/-- A declaration was divided off (`segment_declarations`). -/
def ofDeclaration (d : Declaration) : Event :=
  ⟨.debug, "django2dart_compiler::segmenter", "segmented declaration",
    [("line", .number d.line), ("text", .plain d.text)]⟩

/-- A declaration was read as a field (`parse_declaration`). -/
def ofField (f : Field) : Event :=
  ⟨.debug, "django2dart_compiler::parser", "parsed field",
    [("line", .number f.line), ("field", .plain f.sourceName), ("token", .plain f.token),
      ("dart_type", .delimited f.type.name)]⟩

/-- Something is amiss with a field (`compile_model`). -/
def ofDiagnostic (d : Diagnostic) : Event :=
  ⟨.warn, "django2dart_compiler::compiler", d.message, []⟩

/-- A class was compiled (`compile_model`). -/
def ofCompilation (c : Compilation) : Event :=
  ⟨.debug, "django2dart_compiler::compiler", "compiled model",
    [("class", .plain c.model.name), ("fields", .number c.model.fields.length)]⟩

/-- The events of a compilation, as far as it goes. -/
def ofCompiling (text : String) (options : Options) : List Event :=
  if Name.isIdentifier options.className.toList then
    let ds := readDeclarations text
    let divided := ds.finished.map ofDeclaration
    match ds.error with
    | some _ => divided
    | none =>
      let fields := readFields options.camelCase ds.finished
      let read := divided ++ fields.finished.map ofField
      match fields.error with
      | some _ => read
      | none =>
        let c := Compilation.ofFields options.className fields.finished
        read ++ c.diagnostics.map ofDiagnostic ++ [ofCompilation c]
  else []

end Event

end DartModels.Command
