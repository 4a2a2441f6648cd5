import ScriptTyping.Typing.Error

/-!
# The trace of a run

A checking run leaves a trace: what it started with, the type it found for each expression, each
report, each binding that an assignment adopted and each declaration that changed nothing.  The
trace is data, like everything else a run yields; `Event.message` and `Event.fields` give it words.
-/

namespace ScriptTyping

/-- How much detail an event belongs to, from the least to the most. -/
inductive Verbosity where
  | error
  | warn
  | info
  | debug
  | trace
deriving DecidableEq

namespace Verbosity

/-- The rank of a level: whoever asks for a level also gets those of lower rank. -/
def rank : Verbosity → Nat
  | error => 1
  | warn => 2
  | info => 3
  | debug => 4
  | trace => 5

/-- The name of a level in upper case. -/
def label : Verbosity → String
  | error => "ERROR"
  | warn => "WARN"
  | info => "INFO"
  | debug => "DEBUG"
  | trace => "TRACE"

end Verbosity

/-- The value of an event's field. -/
inductive FieldValue where
  /-- A value shown as it is. -/
  | plain (text : String)
  /-- A text of the program under check, which a log line puts in quotes. -/
  | quoted (text : String)
deriving DecidableEq

/-- The bare text of a field. -/
def FieldValue.text : FieldValue → String
  | plain s => s
  | quoted s => s

/-- Something that happened during a checking run. -/
inductive Event where
  /-- A run over this many top-level statements began. -/
  | started (stmts : Nat)
  /-- The type of an expression was found. The events of its parts come before its own. -/
  | typed (expr : Expr) (ty : Ty)
  /-- A typing error is about to be reported. -/
  | reporting (error : TypingError)
  /-- A declaration found its name bound with another type. -/
  | redeclared (name : String) (previous : Ty) (declared : BaseTy)
  /-- An assignment bound a name that was not bound before. -/
  | adopted (name : String) (ty : Ty)
  /-- The run reached the end of the program with this many names bound. -/
  | finished (symbols : Nat)
deriving DecidableEq

namespace Event

/-- The level of an event. -/
def verbosity : Event → Verbosity
  | started _ | reporting _ | redeclared _ _ _ | finished _ => .debug
  | typed _ _ | adopted _ _ => .trace

/-- The words of an event. A started run is a stretch of time and not an event of its own. -/
def message : Event → Option String
  | started _ | typed _ _ => none
  | reporting _ => some "reporting a typing error"
  | redeclared _ _ _ => some "ignoring a redeclaration"
  | adopted _ _ => some "binding an undeclared name on assignment"
  | finished _ => some "type checking finished"

/-- The fields of an event in the order in which they are shown. -/
def fields : Event → List (String × FieldValue)
  | started n => [("stmts", .plain n.repr)]
  | typed e ty => [("expr", .plain e.text), ("ty", .plain ty.text)]
  | reporting e => [("error", .plain e.message)]
  | redeclared name previous declared =>
    [("variable", .quoted name), ("previous", .plain previous.text),
      ("redeclared", .plain declared.keyword)]
  | adopted name ty => [("variable", .quoted name), ("ty", .plain ty.text)]
  | finished n => [("symbols", .plain n.repr)]

end Event

end ScriptTyping
