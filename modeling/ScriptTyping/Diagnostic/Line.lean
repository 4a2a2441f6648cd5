import ScriptTyping.Diagnostic.Basic

/-!
# One line per diagnostic

A diagnostic is shown as the tag of its level, which takes five columns, its text and the text of
its cause.  The cause is left out if it says the same as the message, which is so for every fault
that was logged without a message of its own.
-/

namespace ScriptTyping

/-- The tag of a level, five columns wide. -/
def Level.tag : Level → String
  | fatal => "FATAL"
  | error => "ERROR"
  | warn => "WARN "
  | info => "INFO "

/-- The terminal colour of a tag: red, bright red, yellow or bright cyan. -/
def Level.colour : Level → Nat
  | fatal => 31
  | error => 91
  | warn => 33
  | info => 96

/-- The tag between the terminal's codes for its colour and for the default colour. -/
def Level.colouredTag (l : Level) : String :=
  "\x1b[" ++ l.colour.repr ++ "m" ++ l.tag ++ "\x1b[39m"

namespace Diagnostic

/-- What a diagnostic says, its cause included. -/
def body (d : Diagnostic) : String :=
  match d.cause with
  | none => d.message.text
  | some c =>
    if c.message = d.message.text then d.message.text else d.message.text ++ ": " ++ c.message

/-- The line of a diagnostic, without the line end. -/
def lineText (coloured : Bool) (d : Diagnostic) : String :=
  (if coloured then d.level.colouredTag else d.level.tag) ++ " " ++ d.body

end Diagnostic

end ScriptTyping
