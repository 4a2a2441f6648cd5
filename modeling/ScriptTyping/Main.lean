import ScriptTyping.CommandLine.Run

/-!
# The command

The outer layer: it fetches the arguments, the files and the log filter, runs, and prints what there
is to print.
-/

namespace ScriptTyping.CommandLine

/-- The load error that a failure of the operating system amounts to. -/
def loadErrorOf : IO.Error → LoadError
  | .noFileOrDirectory _ _ _ => .notFound
  | .inappropriateType _ _ _ => .isDirectory
  | e => .other (toString e)

/-- The bytes of a file, or why there are none. -/
def fetch (path : String) : IO (String × Except LoadError ByteArray) := do
  try
    return (path, .ok (← IO.FS.readBinFile path))
  catch e => return (path, .error (loadErrorOf e))

/-- Prints what a run wrote. If that fails, the run goes on as with a full sink. -/
def printDumps (out : Sink) : IO (Option String) := do
  try
    let stdout ← IO.getStdout
    stdout.write ⟨out.taken.toArray⟩
    stdout.flush
    return none
  catch e => return some (toString e)

/-- Runs with the given configuration and gives the exit code. -/
def execute (filter : Filter) (c : Config) : IO UInt32 := do
  let files ← c.files.mapM fetch
  let coloured ← (← IO.getStderr).isTty
  let read path := (files.lookup path).getD (.error .notFound)
  let outcome := run read {} c
  IO.eprint (outcome.transcript.report filter coloured)
  match ← printDumps outcome.out with
  | none => return outcome.exitCode
  | some complaint =>
    IO.eprintln ((dumpDiagnostic complaint).lineText coloured)
    return 1

end ScriptTyping.CommandLine

open ScriptTyping.CommandLine in
/-- The entry point of the command. -/
def main (arguments : List String) : IO UInt32 := do
  let filterText := (← IO.getEnv "SCRIPTCK_LOG").getD ""
  for complaint in Filter.complaints filterText do
    IO.eprintln complaint
  match parseArguments arguments with
  | .error e =>
    IO.eprintln (if ← (← IO.getStderr).isTty then e.styledMessage else e.message)
    return 2
  | .ok .help =>
    IO.print helpText
    return 0
  | .ok .longHelp =>
    IO.print longHelpText
    return 0
  | .ok .version =>
    IO.print versionText
    return 0
  | .ok (.run c) => execute (.ofText filterText) c
