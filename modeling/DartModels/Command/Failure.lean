import DartModels.SourceError
import DartModels.Text.Escaped

/-!
# How a run fails

A run fails with an error of the source, of a file or a stream, or of the editor (`CliError`).
`Failure.report` is what is written of it: the kind of the error and all that it holds, texts shown
in full. Which faults files, streams and editors have is up to the system, so a fault is whatever it
says of itself; the one that is not the system's is that bytes are no text.
-/

namespace DartModels

/-- The error with all that it holds (`ConvertError`). -/
def SourceError.report : SourceError → String
  | malformed reason line =>
    "MalformedInput \x7b msg: " ++ Text.shown reason ++ ", line: " ++ toString line ++ " \x7d"
  | missingAssignment text line =>
    "MissingAssignment \x7b text: " ++ Text.shown text ++ ", line: " ++ toString line ++ " \x7d"
  | missingReference field => "MissingReference(" ++ Text.shown field ++ ")"
  | invalidClassName name => "InvalidClassName(" ++ Text.shown name ++ ")"

namespace Command

/-- An error of a file, a stream or a program (`io::Error`): as users see it, and with all that it
holds. -/
structure IoFault where
  message : String
  report : String
deriving DecidableEq, Repr

namespace IoFault

/-- The fault with a number that the system gives. -/
def ofSystem (code : Nat) (kind message : String) : IoFault where
  message := message ++ " (os error " ++ toString code ++ ")"
  report := "Os \x7b code: " ++ toString code ++ ", kind: " ++ kind ++ ", message: " ++
    Text.shown message ++ " \x7d"

/-- The bytes that were read are no text. -/
def invalidText : IoFault where
  message := "stream did not contain valid UTF-8"
  report := "Error \x7b kind: InvalidData, message: \"stream did not contain valid UTF-8\" \x7d"

end IoFault

/-- Why a run fails (`CliError`). -/
inductive Failure
  | source (error : SourceError)
  | io (fault : IoFault)
  | editor (command reason : String)
deriving DecidableEq, Repr

/-- The failure with all that it holds. -/
def Failure.report : Failure → String
  | source error => "Convert(" ++ error.report ++ ")"
  | io fault => "Io(" ++ fault.report ++ ")"
  | editor command reason =>
    "Editor \x7b editor: " ++ Text.shown command ++ ", reason: " ++ Text.shown reason ++ " \x7d"

end Command

end DartModels
