import ScriptTyping.Typing.Error

/-!
# Diagnostics

A diagnostic is a message of some level, with the place it is about and what caused it, as far as
these are known.  It is put together in a `Draft`, step by step, and the order of the steps decides
which of them prevail:

* a message step always replaces the message;
* a fault step, which brings a place and a text of its own, fills in the message only if there is
  none yet;
* the cause is that of the last step that brought one.

A draft without a message cannot become a diagnostic.
-/

namespace ScriptTyping

/-- How grave a diagnostic is, from the gravest on. -/
inductive Level where
  | fatal
  | error
  | warn
  | info
deriving DecidableEq

namespace Level

/-- The rank of a level; the gravest has the lowest. -/
def rank : Level → Nat
  | fatal => 0
  | error => 1
  | warn => 2
  | info => 3

/-- Levels are ordered from the gravest on. -/
protected def compare (a b : Level) : Ordering := Ord.compare a.rank b.rank

instance : Ord Level := ⟨Level.compare⟩

/-- Whether a diagnostic of this level makes a run fail. -/
def isError (l : Level) : Bool := l.rank ≤ error.rank

end Level

/-- A fault found in a program tree: it has a place and a text of its own. -/
inductive Fault where
  | typing (e : TypingError)
  | violation (v : Violation)
deriving DecidableEq

namespace Fault

/-- The place of the fault. -/
def span : Fault → Span
  | typing e => e.span
  | violation v => v.span

/-- The text of the fault. -/
def message : Fault → String
  | typing e => e.message
  | violation v => v.message

end Fault

/-- What made someone emit a diagnostic. -/
inductive Cause where
  | fault (f : Fault)
  /-- A failure of which only the text is known. -/
  | text (s : String)
deriving DecidableEq

/-- The text of a cause. -/
def Cause.message : Cause → String
  | fault f => f.message
  | text s => s

/-- A text and the place it is about. -/
structure Message where
  span : Option Span
  text : String
deriving DecidableEq

/-- The line a message is attributed to. -/
def Message.line (m : Message) : Option UInt64 := m.span.map (·.line)

/-- A message of some level with its cause. -/
structure Diagnostic where
  level : Level
  message : Message
  cause : Option Cause
deriving DecidableEq

/-- The line a diagnostic is attributed to. -/
def Diagnostic.line (d : Diagnostic) : Option UInt64 := d.message.line

/-- A diagnostic in the making. -/
structure Draft where
  level : Level
  message : Option Message := none
  cause : Option Cause := none
deriving DecidableEq

namespace Draft

/-- A step in the making of a diagnostic. -/
inductive Step where
  | message (m : Message)
  | cause (c : Cause)
  | fault (f : Fault)
deriving DecidableEq

/-- Takes one step. -/
def step (d : Draft) : Step → Draft
  | .message m => { d with message := some m }
  | .cause c => { d with cause := some c }
  | .fault f =>
    { d with
      message := d.message.or (some ⟨some f.span, f.message⟩)
      cause := some (.fault f) }

/-- The draft that the given steps lead to. -/
def ofSteps (level : Level) (steps : List Step) : Draft :=
  steps.foldl step { level := level }

/-- The finished diagnostic, if the draft has a message. -/
def finish? (d : Draft) : Option Diagnostic :=
  d.message.map fun m => ⟨d.level, m, d.cause⟩

/-- What is said to someone who tries to emit a draft without a message. -/
def missingMessage : String := "message must be set"

end Draft

/-- The diagnostic that says no more and no less than a fault does. -/
def Fault.diagnostic (level : Level) (f : Fault) : Diagnostic :=
  ⟨level, ⟨some f.span, f.message⟩, some (.fault f)⟩

/-- The diagnostic of a typing error. -/
def TypingError.diagnostic (e : TypingError) : Diagnostic := (Fault.typing e).diagnostic .error

/-- The diagnostic of a violation, which ends everything. -/
def Violation.diagnostic (v : Violation) : Diagnostic := (Fault.violation v).diagnostic .fatal

end ScriptTyping
