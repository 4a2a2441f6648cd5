import ScriptTyping.Reading.Tree
import ScriptTyping.Ron.Source
import ScriptTyping.Typing.Program

/-!
# From text to text

The entry point for those who embed the checker: it takes a program tree as RON text and gives the
text of its symbol table, or says why there is none.  Typing errors leave no table here, and of a
malformed tree only the violation is told.
-/

namespace ScriptTyping

/-- Reads a program tree from RON text. -/
def Program.ofRon (text : String) : Except ReadError Program := Ron.read readProgram text

/-- The text that stands for the reason why a document is refused. Which rule of the notation or of
the tree it breaks is not told. -/
def ReadError.message (_ : ReadError) : String := "<ron>"

/-- Why a text has no table. -/
inductive SummaryError where
  | unreadable (e : ReadError)
  | violation (v : Violation)
  /-- The errors reported, of which there is at least one. -/
  | typing (errors : List TypingError)

namespace SummaryError

/-- The first line of every refusal. -/
def header : String := "Type checking failed due to the following errors:"

/-- What is wrong, one message after another. -/
def messages : SummaryError → List String
  | unreadable e => [e.message]
  | violation v => [v.message]
  | typing errors => errors.map TypingError.message

/-- The text of a refusal: the header, and each message after a line end. -/
def text (e : SummaryError) : String :=
  header ++ String.join (e.messages.map ("\n" ++ ·))

end SummaryError

/-- Checks a program tree given as RON text, without insisting on conditions of type bool. -/
def summarize (text : String) : Except SummaryError String := do
  let p ← (Program.ofRon text).mapError SummaryError.unreadable
  let c := p.check {}
  let t ← c.result.mapError SummaryError.violation
  if c.errors.isEmpty then return t.text else throw (.typing c.errors)

end ScriptTyping
