import DartModels.Declaration.Basic
import DartModels.Declaration.Scan
import DartModels.Progress
import DartModels.Text.Cut
import DartModels.Text.Lines

/-!
# Reading declarations

A reader goes through the lines of a text with at most one call open. Void lines are passed over.
Any other line starts a declaration if no call is open: it needs an equals sign, and behind the
first a parenthesis that opens. If one is open, the line continues it. A declaration is finished
where its call ends; its text is the kept parts of its lines, trimmed, the empty ones left out, with
one space between them.

`declarations` is the reading as a whole, `readDeclarations` the same with what was finished before
an error.
-/

namespace DartModels

open Text

/-- A declaration whose call is open at the end of a line. -/
structure OpenCall where
  /-- The line that the declaration starts on. -/
  line : Nat
  /-- How many parentheses are open. -/
  depth : Nat
  /-- What is kept of the first line. -/
  start : List Char
  /-- What is kept of the later lines, that of the last one first. -/
  later : List (List Char)
deriving DecidableEq, Repr

namespace Declaration

/-- The parts of a declaration on one line. -/
def collapse (start : List Char) (later : List (List Char)) : List Char :=
  [' '].intercalate (start :: later)

/-- Reads a line that starts a declaration. -/
def startLine (n : Nat) (line : List Char) : Except SourceError (Declaration ⊕ OpenCall) :=
  match cut? '=' line with
  | none => .error (.missingAssignment (String.ofList (trim line)) n)
  | some (name, value) =>
    let keep kept := trim (name ++ '=' :: kept)
    match scan 0 value with
    | .error fault => .error (fault.onLine n)
    | .ok (.closed kept) => .ok (.inl ⟨String.ofList (keep kept), n⟩)
    | .ok (.pending 0 _) => .error ((Fault.noCall (String.ofList (trim line))).onLine n)
    | .ok (.pending (d + 1) kept) => .ok (.inr ⟨n, d + 1, keep kept, []⟩)

end Declaration

namespace OpenCall

/-- A further part of the call, unless it is empty. -/
def push (call : OpenCall) (part : List Char) : OpenCall :=
  if part.isEmpty then call else { call with later := part :: call.later }

/-- The declaration, once its call is closed. -/
def finish (call : OpenCall) : Declaration :=
  ⟨String.ofList (Declaration.collapse call.start call.later.reverse), call.line⟩

/-- Reads a line inside the call. -/
def continueLine (call : OpenCall) (n : Nat) (line : List Char) :
    Except SourceError (Declaration ⊕ OpenCall) :=
  match Declaration.scan call.depth line with
  | .error fault => .error (fault.onLine n)
  | .ok (.closed kept) => .ok (.inl (call.push (trim kept)).finish)
  | .ok (.pending d kept) => .ok (.inr { call.push (trim kept) with depth := d })

/-- The error of a text that ends inside the call. -/
def unclosed (call : OpenCall) : SourceError :=
  (Fault.unclosedCall (String.ofList call.start)).onLine call.line

end OpenCall

namespace Declaration

/-- Reads a line that is not void. -/
def readLine : Option OpenCall → Nat → List Char → Except SourceError (Declaration ⊕ OpenCall)
  | none => startLine
  | some call => call.continueLine

/-- Reads numbered lines, with a call open or none. -/
def readLines : Option OpenCall → List (Nat × List Char) → Progress SourceError Declaration
  | none, [] => .done
  | some call, [] => .stop call.unclosed
  | call, (n, line) :: ls =>
    if isVoid line then readLines call ls
    else
      match readLine call n line with
      | .error e => .stop e
      | .ok (.inl d) => .cons d (readLines none ls)
      | .ok (.inr call) => readLines (some call) ls

end Declaration

/-- The declarations of a text, up to the first error. -/
def readDeclarations (text : String) : Progress SourceError Declaration :=
  Declaration.readLines none (numberedLines text.toList)

/-- The declarations of a text, in order (`segment_declarations`). -/
def declarations (text : String) : Except SourceError (List Declaration) :=
  (readDeclarations text).toExcept

end DartModels
