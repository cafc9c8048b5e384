import DartModels.Command.Path
import DartModels.Command.System
import DartModels.Text.Blank

/-!
# Editors

An editor is a command that takes the path of a scratch file behind its own arguments
(`EditorInput`). The file starts with a few lines of comment that show what to write, and holds the
source when the editor is done. Editors of the family of `vi` are told to write the file in place.

Result: the scratch file is removed whatever comes of the editor (`after_withScratch`).
-/

namespace DartModels.Command.Editor

/-- What a scratch file starts with (`INITIAL_MESSAGE`). -/
def seed : String :=
  "
    # PASTE YOUR DJANGO MODEL FIELDS: VARIABLE_NAME = models.VARIABLE_TYPE(attributes). A field may span several lines. e.g.:
    # question = models.CharField(verbose_name=\"Title of the question\", max_length=255, blank=False, null=False)
    # answer = models.CharField(verbose_name=\"Answer to the question\", config_name='simple_toolbar', blank=True, null=True)
    # expert = models.ForeignKey('Expert', verbose_name='Expert', on_delete=models.SET_NULL, null=True, blank=True)
    # score = models.IntegerField(default=0, help_text=\"Score of the answer to the question\")
"

/-- The program is of the family of `vi` (`is_vim_like`). -/
def isVi (program : String) : Bool :=
  (Path.fileName? program).any ["vi", "vim", "nvim", "gvim", "mvim"].contains

/-- The words of a command, which falls apart at white space. -/
def wordsOf (command : List Char) : List String :=
  (splitBlank [] command).filter (· != "")
where
  /-- Divides at each blank; the word under way is reversed. -/
  splitBlank (word : List Char) : List Char → List String
    | [] => [String.ofList word.reverse]
    | c :: s =>
      if Text.isBlank c then String.ofList word.reverse :: splitBlank [] s
      else splitBlank (c :: word) s

/-- What a program is given besides the arguments of the command: how to write, and what. -/
def ownArguments (program scratch : String) : List String :=
  (if isVi program then ["+set backupcopy=yes"] else []) ++ [scratch]

variable {σ : Type} (sys : System σ)

/-- Puts a scratch file to a use, and removes it. -/
def withScratch {α : Type} (use : String → Action σ Failure α) : Action σ Failure α := do
  let path ← (sys.createScratch "django2dart-" ".py").mapError .io
  let result ← ExceptT.lift (ExceptT.run (use path))
  sys.removeScratch path
  Action.ofExcept result

/-- **A scratch file is removed**, whatever it is used for and whatever comes of that. -/
theorem after_withScratch {α : Type} (use : String → Action σ Failure α) (s : σ) :
    (withScratch sys use).after s =
      match (sys.createScratch "django2dart-" ".py").after s with
      | (.ok path, t) =>
        (((use path).after t).1, ((sys.removeScratch path).run ((use path).after t).2).2)
      | (.error fault, t) => (.error (.io fault), t) := by
  rw [withScratch, Action.after_bind, Action.after_mapError]
  rcases (sys.createScratch "django2dart-" ".py").after s with ⟨_ | path, t⟩ <;> rfl

/-- Launches a command on a scratch file, and waits until it has ended well. -/
def launch (logging : Logging) (command path : String) : Action σ Failure Unit := do
  match wordsOf command.toList with
  | [] => throw (.editor command "empty editor command")
  | program :: arguments =>
    sys.log logging ⟨.debug, "django2dart::input", "launching editor",
      [("editor", .plain command), ("path", .plain path)]⟩
    let status ← (sys.launch program (arguments ++ ownArguments program path)).mapError
      fun fault => .editor command fault.message
    unless status.isSuccess do
      throw (.editor command ("exited with " ++ status.message))

/-- Lets an editor fill a scratch file (`EditorInput::read_input`). -/
def edit (logging : Logging) (command : String) : Action σ Failure String :=
  withScratch sys fun path => do
    (sys.fillScratch path seed.toUTF8).mapError .io
    launch sys logging command path
    System.readText (sys.readFile path)

end DartModels.Command.Editor
