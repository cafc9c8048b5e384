import DartModels.Command.Failure
import DartModels.Command.Log

/-!
# Systems

What a run asks of the system that it runs on: to read and write files, to read and write the
standard streams, to keep a log, and to let an editor fill a scratch file. A `System` is a record of
these operations over the states `σ` of whatever is outside of the program. Any of them but the log
may fail, with any fault.
-/

namespace DartModels.Command

/-! ## Renamed errors -/

section Except

variable {α ε ε' : Type} {e : Except ε α} {f : ε → ε'}

theorem mapError_eq_ok_iff {a : α} : e.mapError f = .ok a ↔ e = .ok a := by
  cases e with
  | error y => exact iff_of_false (fun h => nomatch h) fun h => nomatch h
  | ok b => exact iff_of_eq ((Except.ok.injEq _ _).trans (Except.ok.injEq _ _).symm)

end Except

/-! ## Actions -/

/-- Something that is done to a state, and comes to a value or an error. -/
abbrev Action (σ ε α : Type) :=
  ExceptT ε (StateM σ) α

namespace Action

variable {σ ε ε' α β : Type}

/-- What an action comes to from a state, and the state that it leaves. -/
def after (x : Action σ ε α) (s : σ) : Except ε α × σ :=
  (ExceptT.run x).run s

/-- Comes to a value or an error without doing anything. -/
def ofExcept (e : Except ε α) : Action σ ε α :=
  ExceptT.mk (pure e)

/-- Renames the errors of an action. -/
def mapError (f : ε → ε') (x : Action σ ε α) : Action σ ε' α :=
  ExceptT.adapt f x

@[simp] theorem after_mapError (f : ε → ε') (x : Action σ ε α) (s : σ) :
    after (mapError f x) s = ((after x s).1.mapError f, (after x s).2) := rfl

@[simp] theorem after_lift (x : StateM σ α) (s : σ) :
    after (liftM x : Action σ ε α) s = (.ok (x.run s).1, (x.run s).2) := rfl

/-- An action goes on from the state that the one before it leaves, unless that ends in an error. -/
theorem after_bind (x : Action σ ε α) (f : α → Action σ ε β) (s : σ) :
    after (x >>= f) s =
      match after x s with
      | (.ok a, t) => after (f a) t
      | (.error e, t) => (.error e, t) := by
  change (ExceptT.bindCont f (after x s).1).run (after x s).2 = _
  rcases after x s with ⟨_ | _, _⟩ <;> rfl

theorem after_lift_bind (x : StateM σ α) (f : α → Action σ ε β) (s : σ) :
    after (liftM x >>= f) s = after (f (x.run s).1) (x.run s).2 := by
  rw [after_bind, after_lift]

theorem after_bind_eq {x : Action σ ε α} {f : α → Action σ ε β} {s t : σ} {r : Except ε β}
    (h : after (x >>= f) s = (r, t)) :
    (∃ e, after x s = (.error e, t) ∧ r = .error e) ∨
      ∃ a u, after x s = (.ok a, u) ∧ after (f a) u = (r, t) := by
  rw [after_bind] at h
  rcases hx : after x s with ⟨e | a, u⟩
  · rw [hx] at h
    obtain ⟨rfl, rfl⟩ := Prod.mk.inj h
    exact Or.inl ⟨e, rfl, rfl⟩
  · rw [hx] at h
    exact Or.inr ⟨a, u, rfl, h⟩

/-- A step whose errors are renamed, and what comes behind it. -/
theorem after_mapError_bind_eq {g : ε → ε'} {x : Action σ ε α} {f : α → Action σ ε' β} {s t : σ}
    {r : Except ε' β} (h : after (mapError g x >>= f) s = (r, t)) :
    (∃ e, after x s = (.error e, t) ∧ r = .error (g e)) ∨
      ∃ a u, after x s = (.ok a, u) ∧ after (f a) u = (r, t) := by
  rw [after_bind, after_mapError] at h
  rcases hx : after x s with ⟨e | a, u⟩
  · rw [hx] at h
    obtain ⟨rfl, rfl⟩ := Prod.mk.inj h
    exact Or.inl ⟨e, rfl, rfl⟩
  · rw [hx] at h
    exact Or.inr ⟨a, u, rfl, h⟩

end Action

/-! ## Operations -/

/-- How a program has ended (`ExitStatus`). -/
inductive ExitStatus
  | exited (code : Nat)
  /-- Ended by a signal, which is told by its number and its name. -/
  | signaled (signal : String)
deriving DecidableEq, Repr

namespace ExitStatus

/-- The program has ended well. -/
def isSuccess (status : ExitStatus) : Bool :=
  status = exited 0

/-- The status in words. -/
def message : ExitStatus → String
  | exited code => "exit status: " ++ toString code
  | signaled signal => "signal: " ++ signal

end ExitStatus

/-- The operations of a system on its states `σ`. -/
structure System (σ : Type) where
  /-- Reads the standard input to its end. -/
  readInput : Action σ IoFault ByteArray
  /-- Reads the file at a path (`fs::read`). -/
  readFile (path : String) : Action σ IoFault ByteArray
  /-- Writes a file of these bytes to a path, in the place of one that is there (`fs::write`). -/
  writeFile (path : String) (bytes : ByteArray) : Action σ IoFault Unit
  /-- Writes whole lines to the standard output. -/
  print (lines : String) : Action σ IoFault Unit
  /-- Writes whole lines to the standard error stream. -/
  printError (lines : String) : Action σ IoFault Unit
  /-- Keeps an event in the log, or drops it. -/
  log (logging : Logging) (event : Event) : StateM σ Unit
  /-- Makes an empty scratch file, of whose name the start and the end are given, and tells its
  path. -/
  createScratch (start ending : String) : Action σ IoFault String
  /-- Writes to the scratch file at a path. -/
  fillScratch (path : String) (bytes : ByteArray) : Action σ IoFault Unit
  /-- Removes the scratch file at a path, if it is still there. -/
  removeScratch (path : String) : StateM σ Unit
  /-- Runs a program with arguments to its end. -/
  launch (program : String) (arguments : List String) : Action σ IoFault ExitStatus

namespace System

variable {σ : Type} (sys : System σ)

/-- Keeps events in the log, in order. -/
def logAll (logging : Logging) (events : List Event) : StateM σ Unit :=
  events.forM (sys.log logging)

/-- The text of bytes. -/
def decode (bytes : ByteArray) : Except IoFault String :=
  match String.fromUTF8? bytes with
  | some text => .ok text
  | none => .error .invalidText

/-- The text of the bytes that are read (`read_to_string`). -/
def readText (read : Action σ IoFault ByteArray) : Action σ Failure String := do
  let bytes ← Action.mapError .io read
  Action.ofExcept ((decode bytes).mapError .io)

theorem decode_eq_ok_iff {bytes : ByteArray} {text : String} :
    decode bytes = .ok text ↔ bytes = text.toUTF8 := by
  unfold decode String.fromUTF8?
  constructor
  · intro h
    split at h
    · rename_i hbytes
      split at hbytes
      · rw [← Except.ok.inj h, ← Option.some.inj hbytes]
        rfl
      · cases hbytes
    · cases h
  · rintro rfl
    rw [String.toUTF8_eq_toByteArray, dif_pos text.isValidUTF8]
    rfl

/-- The text of what reading has come to. -/
def textOf (read : Except IoFault ByteArray) : Except Failure String :=
  (read >>= decode).mapError .io

theorem after_readText (read : Action σ IoFault ByteArray) (s : σ) :
    (readText read).after s = (textOf (read.after s).1, (read.after s).2) := by
  rw [readText, Action.after_bind, Action.after_mapError]
  rcases read.after s with ⟨_ | bytes, t⟩ <;> rfl

theorem textOf_eq_ok_iff {read : Except IoFault ByteArray} {text : String} :
    textOf read = .ok text ↔ read = .ok text.toUTF8 := by
  cases read with
  | error fault => exact iff_of_false (fun h => nomatch h) fun h => nomatch h
  | ok bytes =>
    rw [Except.ok.injEq, ← decode_eq_ok_iff]
    exact mapError_eq_ok_iff

theorem readText_eq_ok {read : Action σ IoFault ByteArray} {text : String} {s t : σ}
    (h : (readText read).after s = (.ok text, t)) : read.after s = (.ok text.toUTF8, t) := by
  rw [after_readText] at h
  obtain ⟨htext, hstate⟩ := Prod.mk.inj h
  exact Prod.ext (textOf_eq_ok_iff.mp htext) hstate

end System

end DartModels.Command
