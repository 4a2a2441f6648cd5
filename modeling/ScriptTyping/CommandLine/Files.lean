import ScriptTyping.Summary

/-!
# Files

What the command sees of a file system: a path leads to bytes, or to the reason why it does not.
`Files` is a directory held in memory, and `Files.read` follows a path in it the way an operating
system does: every part of the path but the last has to be a directory, a single dot stays where it
is, and two dots go up.  A path may lead out of the directory.  There are more directories around it,
up to the root of the file system, but nothing in them has a name.
-/

namespace ScriptTyping.CommandLine

/-- Why a program cannot be loaded. -/
inductive LoadError where
  | notFound
  | isDirectory
  | notDirectory
  /-- The path or a part of it is longer than a file system allows. -/
  | nameTooLong
  /-- The bytes are no UTF-8 text. -/
  | notText
  /-- The text is no program tree. -/
  | unreadable (e : ReadError)
  /-- A failure for which the operating system has its own words. -/
  | other (text : String)
deriving DecidableEq

/-- The text of a load error. -/
def LoadError.message : LoadError → String
  | notFound => "No such file or directory (os error 2)"
  | isDirectory => "Is a directory (os error 21)"
  | notDirectory => "Not a directory (os error 20)"
  | nameTooLong => "File name too long (os error 36)"
  | notText => "stream did not contain valid UTF-8"
  | unreadable e => e.message
  | other text => text

/-- Loads a program from the bytes of a file. -/
def loadProgram (bytes : Except LoadError ByteArray) : Except LoadError Program := do
  match String.fromUTF8? (← bytes) with
  | none => throw .notText
  | some text => (Program.ofRon text).mapError LoadError.unreadable

/-- What a name in a directory stands for. -/
inductive Node where
  | file (bytes : ByteArray)
  | directory

/-- A directory: the paths in it, from its root on, and what they lead to. The directories on the
way to a path are there by themselves. -/
structure Files where
  nodes : List (List String × Node)

/-- Where a path has led so far. -/
inductive Place where
  /-- To a path in the directory. -/
  | inside (path : List String)
  /-- To a directory around it. -/
  | outside
deriving DecidableEq

/-- The directory that a place is in. -/
def Place.up : Place → Place
  | inside [] => outside
  | inside path => inside path.dropLast
  | outside => outside

namespace Files

/-- What a path without dots leads to. -/
def node? (fs : Files) (path : List String) : Option Node :=
  if path.isEmpty then some .directory
  else
    match fs.nodes.lookup path with
    | some n => some n
    | none => if fs.nodes.any fun n => path.isPrefixOf n.1 then some .directory else none

/-- What there is at a place. -/
def at? (fs : Files) : Place → Option Node
  | .inside path => fs.node? path
  | .outside => some .directory

/-- The most bytes that the name of an entry may have. -/
def nameLimit : Nat := 255

/-- Goes from a directory to the entry of the given name. -/
def enter (name : String) (here : Place) : Except LoadError Place :=
  if nameLimit < name.utf8ByteSize then .error .nameTooLong
  else
    match here with
    | .inside path => .ok (.inside (path ++ [name]))
    | .outside => .error .notFound

/-- Follows the parts of a path from a place on. -/
def follow (fs : Files) (here : Place) : List String → Except LoadError Node
  | [] =>
    match fs.at? here with
    | some n => .ok n
    | none => .error .notFound
  | part :: rest =>
    match fs.at? here with
    | none => .error .notFound
    | some (.file _) => .error .notDirectory
    | some .directory =>
      if part = "" ∨ part = "." then follow fs here rest
      else if part = ".." then follow fs here.up rest
      else do
        let there ← enter part here
        follow fs there rest

/-- The most bytes that a path may have. -/
def pathLimit : Nat := 4095

/-- The bytes at a path, which starts at the root of the file system if it begins with a slash. -/
def read (fs : Files) (path : String) : Except LoadError ByteArray :=
  if pathLimit < path.utf8ByteSize then .error .nameTooLong
  else do
    let start := if path.startsWith "/" then .outside else .inside []
    match ← fs.follow start (path.splitOn "/") with
    | .file bytes => return bytes
    | .directory => throw .isDirectory

end Files

end ScriptTyping.CommandLine
