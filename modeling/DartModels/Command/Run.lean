import DartModels.Command.Editor

/-!
# A run of the command

`run` takes what a run is asked for, and the state that a system is in, to the status that it exits
with and the state that it leaves. It reads the source, compiles it, writes the file if it is asked
to, and prints (`main`).

The first step that fails ends a run with status 1, and the failure is reported on the error stream.
When the text is there and a stream does not take what is to be printed, the run panics, with status
101.
-/

namespace DartModels.Command

/-- What a run is asked for (`Cli`). -/
structure Invocation where
  name : String
  camelCase : Bool
  /-- The path of the source. Without one, an editor is opened. -/
  input : Option String
  editor : String
  write : Bool
  outDir : String
  json : Bool
  verbosity : Nat
deriving DecidableEq, Repr

namespace Invocation

/-- What is to be compiled. -/
def options (i : Invocation) : Options :=
  ⟨i.name, i.camelCase⟩

/-- How the log is set up. -/
def logging (i : Invocation) : Logging :=
  .ofVerbosity i.verbosity

end Invocation

namespace Run

/-- Why a run ends early. -/
inductive Stop
  | failed (failure : Failure)
  /-- A stream did not take what was to be printed. -/
  | panicked
deriving DecidableEq, Repr

/-- The path stands for the standard input. -/
def isStandardInput (path : String) : Bool :=
  Path.components path = Path.components "-"

/-- The generated text: JSON with a line feed, or the source of the class. -/
def render (i : Invocation) (c : Compilation) : String :=
  if i.json then c.pretty ++ "\n" else c.model.source

/-- The name of the file that is written. -/
def outName (i : Invocation) : String :=
  i.name ++ (if i.json then ".json" else ".dart")

/-- The path of the file that is written. -/
def outPath (i : Invocation) : String :=
  Path.join i.outDir (outName i)

variable {σ : Type} (sys : System σ)

/-- Reads the source (`Cli::input_source`, `StdinInput::read_input`, `FileInput::read_input`). -/
def readSource (i : Invocation) : Action σ Failure String := do
  match i.input with
  | none => Editor.edit sys i.logging i.editor
  | some path =>
    if isStandardInput path then
      sys.log i.logging ⟨.debug, "django2dart::input", "reading declarations from stdin", []⟩
      System.readText sys.readInput
    else
      sys.log i.logging ⟨.debug, "django2dart::input", "reading declarations from file",
        [("path", .plain path)]⟩
      System.readText (sys.readFile path)

/-- Compiles the source, and logs how far that goes. -/
def compileSource (i : Invocation) (text : String) : Action σ Failure Compilation := do
  sys.logAll i.logging (Event.ofCompiling text i.options)
  Action.ofExcept ((compile text i.options).mapError .source)

/-- Writes the file, and reports it. -/
def save (i : Invocation) (output : String) : Action σ Stop Unit := do
  (sys.writeFile (outPath i) output.toUTF8).mapError fun fault => .failed (.io fault)
  sys.log i.logging ⟨.info, "django2dart", "wrote generated output",
    [("path", .plain (outPath i))]⟩
  (sys.printError ("Generated " ++ i.name ++ " written to " ++ outPath i ++ "\n")).mapError
    fun _ => .panicked

/-- Writes the file, if that is asked for, and prints the generated text. -/
def deliver (i : Invocation) (output : String) : Action σ Stop Unit := do
  if i.write then save sys i output
  (sys.print output).mapError fun _ => .panicked

/-- All that a run does, until it ends. -/
def perform (i : Invocation) : Action σ Stop Unit := do
  let text ← (readSource sys i).mapError .failed
  let c ← (compileSource sys i text).mapError .failed
  deliver sys i (render i c)

end Run

/-- What a run leaves. -/
structure Outcome (σ : Type) where
  code : Nat
  state : σ

/-- Runs the command (`main`). -/
def run {σ : Type} (sys : System σ) (i : Invocation) (s : σ) : Outcome σ :=
  match (Run.perform sys i).after s with
  | (.ok (), t) => ⟨0, t⟩
  | (.error (.failed failure), t) =>
    ⟨1, ((sys.printError ("Error: " ++ failure.report ++ "\n")).after t).2⟩
  | (.error .panicked, t) => ⟨101, t⟩

end DartModels.Command
