import FixturePragmas.CommandLine.Program

/-!
# The executable

The outer layer of the program: it looks at the files that the arguments may name, runs the program
on what it found, and writes the transcript.
-/

namespace FixturePragmas.Main

open CommandLine

/-- The number by which the system knows an error, if it is one about a file. -/
def errorNumber : IO.Error → Nat
  | .noFileOrDirectory _ code _ => code.toNat
  | .inappropriateType _ code _ => code.toNat
  | .invalidArgument _ code _ => code.toNat
  | .permissionDenied _ code _ => code.toNat
  | _ => 0

/-- All faults. -/
def faults : List FileFault :=
  [.notFound, .notADirectory, .isADirectory, .nameTooLong, .accessDenied]

/-- The fault that an error stands for; some errors have the number with its sign changed. -/
def faultOf (e : IO.Error) : FileFault :=
  let n := errorNumber e
  (faults.find? fun f => f.number = n ∨ f.number + n = Nat.pow 2 32).getD .notFound

/-- Try to read the file at a path. -/
def probe (p : Path) : IO Probe := do
  try
    let bytes ← IO.FS.readBinFile p.toString
    return ⟨p, .ok bytes.toList⟩
  catch e => return ⟨p, .error (faultOf e)⟩

/-- The paths that the program may want to know about: its arguments, the values in them, and the
files of settings in the working directory. -/
def candidates (dir : Path) (args : List String) : List Path :=
  let values := args.filterMap fun a => (Arguments.splitValue a.toList).2.map String.ofList
  (args ++ values).map Path.ofString
    ++ [dir.join Settings.ownFileName, dir.join Settings.sharedFileName]

/-- Where the program runs. -/
def environment (args : List String) : IO Environment := do
  let dir := Path.ofString (← IO.currentDir).toString
  let probes ← ((candidates dir args).filter (!·.hasNul)).mapM probe
  return {
    files := .ofProbes dir probes
    logSetting? := ← IO.getEnv "PRAGMASCAN_LOG_LEVEL"
    terminal := ← (← IO.getStdout).isTty
    errorTerminal := ← (← IO.getStderr).isTty }

/-- The wording of a fault that no command reports. -/
def faultMessage : Fault → String
  | .numeral e => e.message
  | .malformed m => m.message
  | .clash c => c.message
  | .system e => e.message
  | .nulInPath => "embedded null byte"

end FixturePragmas.Main

open FixturePragmas in
/-- Run the program on the arguments of the process. -/
def main (args : List String) : IO UInt32 := do
  let env ← Main.environment args
  let t := env.run args
  (← IO.getStdout).putStr (String.ofList t.output)
  (← IO.getStderr).putStr (String.ofList t.errors)
  match t.ending with
  | .exited code => return UInt32.ofNat code
  | .faulted f => do
    IO.eprintln (Main.faultMessage f)
    return 1
