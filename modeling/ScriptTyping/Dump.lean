import ScriptTyping.Datum.Outline
import ScriptTyping.Datum.Tree
import ScriptTyping.Ron.Writer

/-!
# Dumps of symbol tables

The table of a checked program can be dumped in three formats: as one line for each variable of
known type under a line with the name of the file, as an outline, or as a RON document.  Each dump
ends with a line end.
-/

namespace ScriptTyping

/-- A format for dumps. -/
inductive DumpFormat where
  | text
  | debug
  | ron
deriving DecidableEq

namespace DumpFormat

/-- All formats. -/
def all : List DumpFormat := [text, debug, ron]

/-- The name of a format. -/
def name : DumpFormat → String
  | text => "text"
  | debug => "debug"
  | ron => "ron"

/-- The format of the given name. -/
def ofName? (s : String) : Option DumpFormat := all.find? (·.name == s)

/-- The format of the given name, whatever the case of its ASCII letters. -/
def ofNameAnyCase? (s : String) : Option DumpFormat := ofName? (s.map Char.toLower)

end DumpFormat

/-- The dump of the table of the file at `path`. -/
def SymbolTable.dump (t : SymbolTable) (format : DumpFormat) (path : String) : String :=
  match format with
  | .text => "# " ++ path ++ "\n" ++ t.text
  | .debug => t.shown.tallOutline 0 ++ "\n"
  | .ron => Ron.writePretty t.datum ++ "\n"

/-! ## Where dumps go -/

/-- Something that takes bytes, possibly not more than a certain number of them. -/
structure Sink where
  /-- What was taken so far. -/
  taken : List UInt8 := []
  /-- How many more bytes are taken, if there is a limit. -/
  room : Option Nat := none
  /-- What the sink says when it is full. -/
  complaint : String := ""

/-- Writes a text. If it does not fit, as much of it as fits is taken, and the sink complains. -/
def Sink.write (s : Sink) (text : String) : Except String Unit × Sink :=
  let bytes := text.toUTF8.data.toList
  match s.room with
  | none => (.ok (), { s with taken := s.taken ++ bytes })
  | some n =>
    if bytes.length ≤ n then
      (.ok (), { s with taken := s.taken ++ bytes, room := some (n - bytes.length) })
    else (.error s.complaint, { s with taken := s.taken ++ bytes.take n, room := some 0 })

end ScriptTyping
