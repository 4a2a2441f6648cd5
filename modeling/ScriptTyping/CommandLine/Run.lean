import ScriptTyping.CommandLine.Arguments
import ScriptTyping.CommandLine.Files
import ScriptTyping.CommandLine.Filter
import ScriptTyping.Diagnostic.Line
import ScriptTyping.Diagnostic.Log

/-!
# A run of the command

A run has three phases.  It loads all files and stops if one of them cannot be loaded.  It checks the
programs one after another, each from an empty table, and stops at the first that is malformed.  Then
it dumps the tables, whether or not there were typing errors, and stops if a dump cannot be written.

What happens is kept in a `Transcript`: the diagnostics that were emitted and the lines that a log
may show, in order.  The run fails if one of its diagnostics is an error.
-/

namespace ScriptTyping.CommandLine

/-- Something for the log. -/
inductive Happening where
  /-- A program with this many top-level statements was loaded. -/
  | loaded (path : String) (stmts : Nat)
  /-- The program of a file is about to be checked. -/
  | checking (path : String)
  /-- Something happened while a program with this many top-level statements was checked. -/
  | during (stmts : Nat) (e : Event)
deriving DecidableEq

/-- A part of a transcript. -/
inductive Entry where
  | happened (h : Happening)
  | emitted (d : Diagnostic)
deriving DecidableEq

/-- What a run did, in order. -/
abbrev Transcript := List Entry

namespace Transcript

/-- The diagnostic of an entry. -/
def diagnostic? : Entry → Option Diagnostic
  | .emitted d => some d
  | .happened _ => none

/-- The diagnostics that were emitted, in order. -/
def diagnostics (t : Transcript) : List Diagnostic := t.filterMap diagnostic?

/-- Whether the run failed. -/
def failed (t : Transcript) : Bool := t.diagnostics.any (·.level.isError)

end Transcript

/-! ## The phases -/

/-- The diagnostic for a file that cannot be loaded. -/
def loadDiagnostic (path : String) (e : LoadError) : Diagnostic :=
  ⟨.error, ⟨none, "could not load file " ++ path⟩, some (.text e.message)⟩

/-- The diagnostic for a dump that cannot be written. -/
def dumpDiagnostic (complaint : String) : Diagnostic :=
  ⟨.error, ⟨none, "could not dump the symbol table to stdout"⟩, some (.text complaint)⟩

/-- The entry about the loading of a file. -/
def loadEntry (path : String) : Except LoadError Program → Entry
  | .ok p => .happened (.loaded path p.stmts.length)
  | .error e => .emitted (loadDiagnostic path e)

/-- Loads a file. -/
def loadFile (read : String → Except LoadError ByteArray) (path : String) :
    Except LoadError Program :=
  loadProgram (read path)

/-- The entries about the loading of files. -/
def loadEntries (read : String → Except LoadError ByteArray) (paths : List String) : Transcript :=
  paths.map fun path => loadEntry path (loadFile read path)

/-- The programs of files, unless one of them cannot be loaded. -/
def loadAll (read : String → Except LoadError ByteArray) :
    List String → Except LoadError (List (String × Program))
  | [] => .ok []
  | path :: rest => do
    let p ← loadFile read path
    let more ← loadAll read rest
    return (path, p) :: more

/-- The entry of a note that was taken while a program was checked. -/
def noteEntry (stmts : Nat) : Note → Entry
  | .event e => .happened (.during stmts e)
  | .error e => .emitted e.diagnostic

/-- The entries about the check of one program. -/
def checkEntries (o : Options) (path : String) (p : Program) : Transcript :=
  .happened (.checking path) :: (p.check o).notes.map (noteEntry p.stmts.length)

/-- Checks programs one after another, up to the first that is malformed. -/
def checkEach (o : Options) :
    List (String × Program) → Transcript × Except Violation (List (String × SymbolTable))
  | [] => ([], .ok [])
  | (path, p) :: rest =>
    let entries := checkEntries o path p
    match (p.check o).result with
    | .error v => (entries ++ [.emitted v.diagnostic], .error v)
    | .ok t =>
      let (more, result) := checkEach o rest
      (entries ++ more, result.map ((path, t) :: ·))

/-- Dumps tables one after another, up to the first that cannot be written. -/
def dumpEach (format : DumpFormat) : List (String × SymbolTable) → Sink → Transcript × Sink
  | [], out => ([], out)
  | (path, t) :: rest, out =>
    match out.write (t.dump format path) with
    | (.ok (), out) => dumpEach format rest out
    | (.error complaint, out) => ([.emitted (dumpDiagnostic complaint)], out)

/-- What a run did and what it wrote. -/
structure Outcome where
  transcript : Transcript
  out : Sink

/-- Runs the three phases. -/
def run (read : String → Except LoadError ByteArray) (out : Sink) (c : Config) : Outcome :=
  let loading := loadEntries read c.files
  match loadAll read c.files with
  | .error _ => ⟨loading, out⟩
  | .ok programs =>
    let (checks, result) := checkEach c.options programs
    match result with
    | .error _ => ⟨loading ++ checks, out⟩
    | .ok tables =>
      let (dumps, out) := dumpEach c.format tables out
      ⟨loading ++ checks ++ dumps, out⟩

/-- The exit code of a run, which is one if the run failed. -/
def Outcome.exitCode (o : Outcome) : UInt32 := if o.transcript.failed then 1 else 0

/-! ## What is shown -/

/-- The target of the lines about files and programs. -/
def runTarget : String := "scriptck::runner::passes"

/-- The target of the lines about a check. -/
def checkTarget : String := "scriptck::analysis::typeck"

/-- The stretch of a run during which a program with the given number of statements is checked. -/
def checkStretch (stmts : Nat) : Stretch :=
  ⟨"check", checkTarget, (Event.started stmts).verbosity, [("stmts", stmts)]⟩

/-- The line about something that happened during a check. The beginning of a check is no line of
its own, but heads those that follow. -/
def checkLine? (f : Filter) (stmts : Nat) (e : Event) : Option String :=
  match e with
  | .started _ => none
  | e =>
    LogEntry.lineWithin? ⟨checkTarget, e.verbosity, e.message, e.fields⟩ f (checkStretch stmts)

/-- The line about something that happened, if it is wanted. -/
def Happening.line? (f : Filter) : Happening → Option String
  | loaded path stmts =>
    LogEntry.line? ⟨runTarget, .debug, some "loaded a program",
      [("path", .plain path), ("stmts", .plain stmts.repr)]⟩ f
  | checking path => LogEntry.line? ⟨runTarget, .info, some "checking", [("path", .plain path)]⟩ f
  | during stmts e => checkLine? f stmts e

/-- The line of an entry, if it has one. -/
def Entry.line? (f : Filter) (coloured : Bool) : Entry → Option String
  | happened h => h.line? f
  | emitted d => some (d.lineText coloured)

/-- All that a run says about itself, each line with its end. -/
def Transcript.report (t : Transcript) (f : Filter) (coloured : Bool) : String :=
  String.join ((t.filterMap (Entry.line? f coloured)).map (· ++ "\n"))

end ScriptTyping.CommandLine
