import DartModels.Command.Editor
import DartModels.Proofs.Compilation.Stages
import DartModels.Proofs.Declaration.Reading

/-!
# What comes of an editor

The lines that a scratch file starts with are void, so that an editor that saves nothing new leaves
a source without declarations.

An editor is to blame if its command is empty, if it cannot be launched, or if it does not end well.
Otherwise what it has left in the scratch file is the source.

Results:
* `compile_seed`: the lines at the start compile to a class without fields;
* `launch_eq_ok`, `edit_eq_ok`: how an editor comes to a source.
-/

namespace DartModels

open Text

theorem Declaration.readLines_of_void {ls : List (Nat × List Char)}
    (h : ∀ l ∈ ls, isVoid l.2 = true) : readLines none ls = .done := by
  induction ls with
  | nil => rfl
  | cons l ls ih =>
    obtain ⟨hl, hls⟩ := List.forall_mem_cons.mp h
    exact (readLines_void hl ls).trans (ih hls)

theorem readDeclarations_of_void {s : List Char} (h : ∀ l ∈ numberedLines s, isVoid l.2 = true) :
    readDeclarations (String.ofList s) = .done := by
  rw [readDeclarations, String.toList_ofList, Declaration.readLines_of_void h]

namespace Command.Editor

set_option maxRecDepth 8000 in
theorem readDeclarations_seed : readDeclarations seed = .done :=
  readDeclarations_of_void (by decide +kernel)

/-- **An untouched scratch file compiles to a class without fields.** -/
theorem compile_seed {o : Options} (h : Name.isIdentifier o.className.toList = true) :
    compile seed o = .ok (.ofFields o.className []) := by
  have hread : declarations seed = .ok [] := by rw [declarations, readDeclarations_seed]; rfl
  rw [compile_of_isIdentifier h, hread]
  rfl

variable {σ : Type} {sys : System σ}

/-- A command that is launched and ends well has a program, and that has ended well. -/
theorem launch_eq_ok {logging : Logging} {command path : String} {s t : σ}
    (h : (launch sys logging command path).after s = (.ok (), t)) :
    ∃ program arguments u, wordsOf command.toList = program :: arguments ∧
      (sys.launch program (arguments ++ ownArguments program path)).after u =
        (.ok (.exited 0), t) := by
  unfold launch at h
  split at h
  · cases (Prod.mk.inj h).1
  · rename_i program arguments hwords
    rw [Action.after_lift_bind] at h
    rcases Action.after_mapError_bind_eq h with ⟨_, _, he⟩ | ⟨status, u, hstatus, hok⟩
    · cases he
    · cases hs : status.isSuccess with
      | false =>
        rw [hs] at hok
        cases (Prod.mk.inj hok).1
      | true =>
        rw [hs] at hok
        obtain rfl : u = t := (Prod.mk.inj hok).2
        rw [of_decide_eq_true hs] at hstatus
        exact ⟨program, arguments, _, hwords, hstatus⟩

theorem withScratch_eq_ok {α : Type} {use : String → Action σ Failure α} {a : α} {s t : σ}
    (h : (withScratch sys use).after s = (.ok a, t)) :
    ∃ path u v, (sys.createScratch "django2dart-" ".py").after s = (.ok path, u) ∧
      (use path).after u = (.ok a, v) ∧ ((sys.removeScratch path).run v).2 = t := by
  rw [after_withScratch] at h
  rcases hc : (sys.createScratch "django2dart-" ".py").after s with ⟨fault | path, u⟩
  · rw [hc] at h
    cases (Prod.mk.inj h).1
  · rw [hc] at h
    obtain ⟨hok, ht⟩ := Prod.mk.inj h
    exact ⟨path, u, ((use path).after u).2, rfl, Prod.ext hok rfl, ht⟩

/-- **The source is what the editor leaves in the scratch file.** When it is read, the program of
the command has been run on the file and has ended well, and then the file is removed. -/
theorem edit_eq_ok {logging : Logging} {command text : String} {s t : σ}
    (h : (edit sys logging command).after s = (.ok text, t)) :
    ∃ path program arguments u v w, wordsOf command.toList = program :: arguments ∧
      (sys.launch program (arguments ++ ownArguments program path)).after u = (.ok (.exited 0), v) ∧
      (sys.readFile path).after v = (.ok text.toUTF8, w) ∧
      ((sys.removeScratch path).run w).2 = t := by
  obtain ⟨path, s', w, -, hused, hremoved⟩ := withScratch_eq_ok h
  rcases Action.after_mapError_bind_eq hused with ⟨_, _, he⟩ | ⟨_, _, -, hused⟩
  · cases he
  rcases Action.after_bind_eq hused with ⟨_, _, he⟩ | ⟨_, v, hlaunch, hread⟩
  · cases he
  obtain ⟨program, arguments, u, hwords, hended⟩ := launch_eq_ok hlaunch
  exact ⟨path, program, arguments, u, v, w, hwords, hended, System.readText_eq_ok hread, hremoved⟩

end Command.Editor

end DartModels
