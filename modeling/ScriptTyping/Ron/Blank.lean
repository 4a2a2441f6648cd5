/-!
# Blanks

Between the tokens of a document there may be white space and comments.  A comment runs to the end of
its line, or from `/*` to the `*/` that closes it; comments of the second kind nest.  A slash that
opens no comment, and a comment that is not closed, are errors.
-/

namespace ScriptTyping.Ron

/-- White space. -/
def isBlank (c : Char) : Bool := c == ' ' || c == '\t' || c == '\n' || c == '\r'

/-- Where a scan for the next token stands. -/
inductive BlankMode where
  /-- Outside of comments. -/
  | outside
  /-- In a comment that ends with its line. -/
  | line
  /-- In a comment with the given number of comments around it. -/
  | block (depth : Nat)
deriving DecidableEq

/-- Passes over blanks from the given mode on. The result starts with the next token. -/
def skipBlanksFrom : BlankMode → List Char → Option (List Char)
  | .outside, [] => some []
  | .outside, '/' :: '/' :: rest => skipBlanksFrom .line rest
  | .outside, '/' :: '*' :: rest => skipBlanksFrom (.block 0) rest
  | .outside, '/' :: _ => none
  | .outside, c :: rest => if isBlank c then skipBlanksFrom .outside rest else some (c :: rest)
  | .line, [] => some []
  | .line, '\n' :: rest => skipBlanksFrom .outside rest
  | .line, _ :: rest => skipBlanksFrom .line rest
  | .block _, [] => none
  | .block depth, '/' :: '*' :: rest => skipBlanksFrom (.block (depth + 1)) rest
  | .block 0, '*' :: '/' :: rest => skipBlanksFrom .outside rest
  | .block (depth + 1), '*' :: '/' :: rest => skipBlanksFrom (.block depth) rest
  | .block depth, _ :: rest => skipBlanksFrom (.block depth) rest

/-- Passes over the blanks before the next token. -/
def skipBlanks (cs : List Char) : Option (List Char) := skipBlanksFrom .outside cs

end ScriptTyping.Ron
