import ScriptTyping.Dump
import ScriptTyping.Text.Terminal
import ScriptTyping.Typing.Program

/-!
# Arguments

The command takes the names of files and a few options, which may stand anywhere among them.  An
option has a long name after two dashes or a short one after a single dash; the value of an option
is the next argument or is attached to it, by an equals sign or, after a short name, directly.  After
`--` every argument names a file, and so does a single dash.

Arguments are taken from left to right.  Values are looked at only when they are complete: those of
an option when the next argument that is understood comes up, and names of files when an option
interrupts them.  So an argument that is not understood is told before a faulty value next to it.
-/

namespace ScriptTyping.CommandLine

/-- What a run is asked to do. -/
structure Config where
  files : List String
  format : DumpFormat
  options : Options
deriving DecidableEq

/-- What the arguments ask for. -/
inductive Request where
  | run (config : Config)
  | help
  | longHelp
  | version
deriving DecidableEq

/-- Something the command line can hold, as it is named in messages. -/
inductive Parameter where
  | files
  | format
  | strictConditions
  | help
  | version
deriving DecidableEq

/-- How messages name a parameter. -/
def Parameter.text : Parameter → String
  | files => "<FILE>..."
  | format => "--format <FORMAT>"
  | strictConditions => "--strict-conditions"
  | help => "--help"
  | version => "--version"

/-- Why the arguments cannot be understood. -/
inductive UsageError where
  /-- No file is named. -/
  | missingFile
  /-- A value is missing or empty. -/
  | missingValue (p : Parameter)
  | invalidFormat (value : String)
  | unexpectedArgument (argument : String)
  | repeated (p : Parameter)
  /-- A value is attached to an option that takes none. -/
  | unexpectedValue (p : Parameter) (value : String)
deriving DecidableEq

namespace UsageError

/-- What is wrong, between quotes and in yellow. -/
def wrong (s : String) : String := "'" ++ Text.Terminal.styled "33" s ++ "'"

/-- What a fault is about, between quotes and in bold. -/
def about (p : Parameter) : String := "'" ++ Text.Terminal.styled "1" p.text ++ "'"

/-- The fault itself, as a terminal is told about it. -/
def fault : UsageError → String
  | missingFile => "the following required arguments were not provided:"
  | missingValue p => "a value is required for " ++ wrong p.text ++ " but none was supplied"
  | invalidFormat value => "invalid value " ++ wrong value ++ " for " ++ about .format
  | unexpectedArgument argument => "unexpected argument " ++ wrong argument ++ " found"
  | repeated p => "the argument " ++ wrong p.text ++ " cannot be used multiple times"
  | unexpectedValue p value =>
    "unexpected value " ++ wrong value ++ " for " ++ about p ++ " found; no more were expected"

/-- What is said about a usage error at a terminal. -/
def styledMessage (e : UsageError) : String :=
  Text.Terminal.styled "1;31" "error:" ++ " " ++ e.fault

/-- What is said about a usage error elsewhere. Control sequences in an argument go the way of those
around it. -/
def message (e : UsageError) : String := Text.Terminal.visible e.styledMessage

end UsageError

/-- Values that are not looked at yet. -/
inductive Pending where
  | nothing
  /-- Names of files. -/
  | files (names : List String)
  /-- The value of the format option, once it is there. -/
  | format (value : Option String)
deriving DecidableEq

/-- The arguments understood so far. -/
structure Progress where
  files : List String := []
  format : Option DumpFormat := none
  strict : Bool := false
  pending : Pending := .nothing
deriving DecidableEq

namespace Progress

/-- Takes the format. It can be given once. -/
def takeFormat (s : Progress) (value : String) : Except UsageError Progress :=
  if s.format.isSome then .error (.repeated .format)
  else
    match DumpFormat.ofName? value with
    | some f => .ok { s with format := some f }
    | none => .error (if value.isEmpty then .missingValue .format else .invalidFormat value)

/-- Looks at the values that are pending. -/
def resolve (s : Progress) : Except UsageError Progress :=
  let settled := { s with pending := .nothing }
  match s.pending with
  | .nothing => .ok settled
  | .files names =>
    if names.any String.isEmpty then .error (.missingValue .files)
    else .ok { settled with files := s.files ++ names }
  | .format none => .error (.missingValue .format)
  | .format (some value) => settled.takeFormat value

/-- Takes the name of a file. -/
def takeFile (s : Progress) (name : String) : Except UsageError Progress :=
  match s.pending with
  | .files names => .ok { s with pending := .files (names ++ [name]) }
  | _ => do
    let s ← s.resolve
    return { s with pending := .files [name] }

/-- Takes an argument that is no option: the value that an option waits for, or the name of a
file. -/
def takeValue (s : Progress) (value : String) : Except UsageError Progress :=
  match s.pending with
  | .format none => .ok { s with pending := .format (some value) }
  | _ => s.takeFile value

/-- Takes the format option, with its value if that is attached. -/
def beginFormat (s : Progress) (attached : Option String) : Except UsageError Progress := do
  let s ← s.resolve
  match attached with
  | none => return { s with pending := .format none }
  | some value => s.takeFormat value

/-- Takes the option for strict conditions. It can be given once. -/
def takeStrict (s : Progress) : Except UsageError Progress := do
  let s ← s.resolve
  if s.strict then throw (.repeated .strictConditions) else return { s with strict := true }

/-- The request after all arguments. At least one file has to be named. -/
def finish (s : Progress) : Except UsageError Request := do
  let s ← s.resolve
  if s.files.isEmpty then throw .missingFile
  else return .run ⟨s.files, s.format.getD .text, ⟨s.strict⟩⟩

end Progress

/-- What an argument leads to: more arguments, or a request that is complete. -/
inductive Advance where
  | more (s : Progress)
  | done (r : Request)
deriving DecidableEq

/-- Takes an option that has no value, by `take`. A value that is attached all the same is an error.
-/
def withoutValue (p : Parameter) (attached : Option String) (take : Except UsageError Advance) :
    Except UsageError Advance :=
  match attached with
  | some value => .error (.unexpectedValue p value)
  | none => take

/-- Completes the request, once the values that are pending are in order. -/
def Progress.complete (s : Progress) (r : Request) : Except UsageError Advance := do
  let _ ← s.resolve
  return .done r

/-- Takes an option given by its long name. -/
def takeLong (s : Progress) (name : String) (attached : Option String) :
    Except UsageError Advance :=
  if name = "format" then Advance.more <$> s.beginFormat attached
  else if name = "strict-conditions" then
    withoutValue .strictConditions attached (Advance.more <$> s.takeStrict)
  else if name = "help" then withoutValue .help attached (s.complete .longHelp)
  else if name = "version" then withoutValue .version attached (s.complete .version)
  else .error (.unexpectedArgument ("--" ++ name))

/-- The value attached to a short option, an equals sign before it left out. -/
def attachedValue : List Char → Option String
  | [] => none
  | '=' :: value => some (String.ofList value)
  | value => some (String.ofList value)

/-- Takes an option given by its short name. What follows the name is its value; the options that
have no value complete the request, so that nothing after them counts. -/
def takeShort (s : Progress) (name : Char) (rest : List Char) : Except UsageError Advance :=
  if name = 'f' then Advance.more <$> s.beginFormat (attachedValue rest)
  else if name = 'h' then s.complete .help
  else if name = 'V' then s.complete .version
  else .error (.unexpectedArgument (String.ofList ['-', name]))

/-- The name of a long option and the value attached to it. -/
def splitLong (cs : List Char) : String × Option String :=
  let name := String.ofList (cs.takeWhile (· != '='))
  match cs.dropWhile (· != '=') with
  | _ :: value => (name, some (String.ofList value))
  | [] => (name, none)

/-- Takes one argument before any `--`. -/
def takeArgument (s : Progress) (argument : String) : Except UsageError Advance :=
  match argument.toList with
  | '-' :: '-' :: rest =>
    let (name, attached) := splitLong rest
    takeLong s name attached
  | '-' :: name :: rest => takeShort s name rest
  | _ => Advance.more <$> s.takeValue argument

/-- Takes the arguments after `--`, all of which name files. -/
def takeFiles (s : Progress) : List String → Except UsageError Request
  | [] => s.finish
  | name :: rest => do
    let s ← s.takeFile name
    takeFiles s rest

/-- Takes arguments from left to right. -/
def takeArguments (s : Progress) : List String → Except UsageError Request
  | [] => s.finish
  | argument :: rest =>
    if argument = "--" then takeFiles s rest
    else do
      match ← takeArgument s argument with
      | .more s => takeArguments s rest
      | .done r => return r

/-- What the given arguments ask for. -/
def parseArguments (arguments : List String) : Except UsageError Request :=
  takeArguments {} arguments

/-! ## Texts -/

/-- The name and version of the command. -/
def versionText : String := "scriptck 0.1.0\n"

/-- The line on usage, at the head of both help texts. -/
def usageLine : String := "Usage: scriptck [OPTIONS] <FILE>...\n"

/-- The short help. -/
def helpText : String :=
  usageLine
    ++ "\nArguments:\n"
    ++ "  <FILE>...  program trees serialized as RON\n"
    ++ "\nOptions:\n"
    ++ "  -f, --format <FORMAT>    the symbol table output format"
    ++ " [possible values: text, debug, ron]\n"
    ++ "      --strict-conditions  require `if` conditions to be of type bool\n"
    ++ "  -h, --help               Print help (see more with '--help')\n"
    ++ "  -V, --version            Print version\n"

/-- The long help. -/
def longHelpText : String :=
  usageLine
    ++ "\nArguments:\n"
    ++ "  <FILE>...\n"
    ++ "          program trees serialized as RON\n"
    ++ "\nOptions:\n"
    ++ "  -f, --format <FORMAT>\n"
    ++ "          the symbol table output format\n"
    ++ "\n"
    ++ "          Possible values:\n"
    ++ "          - text:  One `name: type` line per variable\n"
    ++ "          - debug\n"
    ++ "          - ron\n"
    ++ "\n"
    ++ "      --strict-conditions\n"
    ++ "          require `if` conditions to be of type bool\n"
    ++ "\n"
    ++ "  -h, --help\n"
    ++ "          Print help (see a summary with '-h')\n"
    ++ "\n"
    ++ "  -V, --version\n"
    ++ "          Print version\n"

end ScriptTyping.CommandLine
