import FixturePragmas.Fixture
import FixturePragmas.Terminal.Console

/-!
# Failures of commands

A command that fails reports one message and ends with an exit code that tells what kind of failure
it was.
-/

namespace FixturePragmas.CommandLine

/-- The kinds of failure. -/
inductive FailureKind where
  | general
  | usage
  | settings
  | fileNotFound
  | io
  | encoding
  | unsupportedFileType
  deriving DecidableEq, Repr

/-- The code with which the program ends after a failure. -/
def FailureKind.exitCode : FailureKind → Nat
  | general => 1
  | usage => 64
  | encoding => 65
  | fileNotFound => 66
  | unsupportedFileType => 69
  | io => 74
  | settings => 78

/-- The code with which the program ends when nothing failed. -/
def exitSuccess : Nat := 0

/-- The code with which the program ends when its arguments make no sense. -/
def exitMisuse : Nat := 2

/-- A failure and its message. -/
structure Failure where
  kind : FailureKind
  message : String
  deriving DecidableEq, Repr

namespace Failure

/-- The failure that a sort of reading faults leads to. -/
def ofReason (reason : ReadError.Reason) (message : String) : Failure :=
  match reason with
  | .notFound => ⟨.fileNotFound, message⟩
  | .encoding => ⟨.encoding, message⟩
  | .io => ⟨.io, message⟩

/-- The failure that a fault in reading a fixture leads to. -/
def ofReadError (e : ReadError) : Failure := ofReason e.reason e.message

end Failure

/-- A message about an error on a line of its own; `colour` tells whether control sequences are kept.
-/
def errorLine (message : String) (colour : Bool := false) : List Char :=
  Terminal.Console.shown ⟨colour⟩ ("Error: ".toList ++ message.toList) ++ ['\n']

/-- How a failure is shown on a console. -/
def Failure.onConsole (f : Failure) (c : Terminal.Console) : Terminal.Piece :=
  c.error f.message.toList

end FixturePragmas.CommandLine
