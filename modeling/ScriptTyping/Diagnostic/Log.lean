import ScriptTyping.Diagnostic.Basic
import ScriptTyping.Typing.Program

/-!
# The log of diagnostics

A log only grows.  Listeners can be installed on it, one replacing the other; the listener in effect
hears each diagnostic at the moment it is added, and nothing that was added before.  Listeners are
numbered from one in the order of their installation, and the log keeps what each of them heard.
-/

namespace ScriptTyping

/-- The diagnostics emitted so far, and who heard them. -/
structure Log where
  entries : List Diagnostic := []
  /-- How many listeners have been installed. The last of them is in effect. -/
  listeners : Nat := 0
  /-- What listeners heard, with the number of the listener, in the order of hearing. -/
  heard : List (Nat × Diagnostic) := []

namespace Log

/-- The log with nothing in it and no listener. -/
def empty : Log := {}

instance : Inhabited Log := ⟨empty⟩

/-- Adds a diagnostic. The listener in effect, if any, hears it. -/
def add (l : Log) (d : Diagnostic) : Log :=
  { l with
    entries := l.entries ++ [d]
    heard := if l.listeners = 0 then l.heard else l.heard ++ [(l.listeners, d)] }

/-- Adds diagnostics one after another. -/
def addAll (l : Log) (ds : List Diagnostic) : Log := ds.foldl add l

/-- Installs a new listener. -/
def listen (l : Log) : Log := { l with listeners := l.listeners + 1 }

/-- Emits a draft. Without a message nothing happens and the draft is refused. -/
def emit? (l : Log) (d : Draft) : Option Log := d.finish?.map l.add

/-- The number of entries. -/
def size (l : Log) : Nat := l.entries.length

/-- Whether nothing was logged. -/
def isEmpty (l : Log) : Bool := l.entries.isEmpty

/-- Whether some entry makes a run fail. -/
def hasErrors (l : Log) : Bool := l.entries.any (·.level.isError)

/-- Checks a program and logs the errors it reports. A violation is not logged. -/
def check (l : Log) (o : Options) (p : Program) : Log × Except Violation SymbolTable :=
  let c := p.check o
  (l.addAll (c.errors.map TypingError.diagnostic), c.result)

end Log

end ScriptTyping
