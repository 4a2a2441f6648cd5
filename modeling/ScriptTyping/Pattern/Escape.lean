import ScriptTyping.Pattern.Basic
import ScriptTyping.Text.Alphanumeric
import ScriptTyping.Text.Digits

/-!
# White space and escapes in patterns

Where white space does not count, comments do not count either: they go from `#` to the end of the
line.

A backslash takes the meaning from a sign, or gives one to a letter.  A character can be written by
two, four or eight hexadecimal digits.  The classes of characters by property are not at hand, so a
pattern that asks for one is refused.
-/

namespace ScriptTyping.Pattern

/-- Passes over white space and comments, from within a comment or not. -/
def passSpace : (inComment : Bool) → List Char → List Char
  | _, [] => []
  | true, c :: rest => passSpace (c != '\n') rest
  | false, c :: rest =>
    if Text.isSpace c then passSpace false rest
    else if c = '#' then passSpace true rest
    else c :: rest

/-- Passes over what does not count. -/
def skip (spaced : Bool) (cs : List Char) : List Char :=
  if spaced then passSpace false cs else cs

/-- Reads this many hexadecimal digits after those that have the given value. -/
def hexNumber? (spaced : Bool) : Nat → Nat → List Char → Option (Nat × List Char)
  | 0, value, cs => some (value, cs)
  | _ + 1, _, [] => none
  | n + 1, value, c :: rest =>
    (Text.hexValue? c).bind fun digit => hexNumber? spaced n (16 * value + digit) (skip spaced rest)

/-- Reads a character that is written by this many hexadecimal digits. -/
def hexChar? (spaced : Bool) (digits : Nat) (cs : List Char) : Option (Atom × List Char) := do
  let (value, rest) ← hexNumber? spaced digits 0 (skip spaced cs)
  if value.isValidChar then some (.literal ⟨Char.ofNat value, digits = 2⟩, rest) else none

/-- The meaning of a letter or a sign behind a backslash, where it needs no more characters. -/
def ofEscaped? (c : Char) : Option Atom :=
  if "dsw".contains c then some (.kind false)
  else if "DSW".contains c then some (.kind true)
  else if "Az".contains c then some .edge
  else if "bB<>".contains c then some .wordEdge
  else
    match c with
    | 'a' => some (.literal ⟨'\x07', false⟩)
    | 'f' => some (.literal ⟨'\x0c', false⟩)
    | 't' => some (.literal ⟨'\t', false⟩)
    | 'n' => some (.literal ⟨'\n', false⟩)
    | 'r' => some (.literal ⟨'\x0d', false⟩)
    | 'v' => some (.literal ⟨'\x0b', false⟩)
    | _ => if c.toNat < 0x80 && !c.isAlphanum then some (.literal ⟨c, false⟩) else none

/-- Reads what follows a backslash. -/
def escape? (spaced : Bool) : List Char → Option (Atom × List Char)
  | [] => none
  | c :: rest =>
    if c = 'x' then hexChar? spaced 2 rest
    else if c = 'u' then hexChar? spaced 4 rest
    else if c = 'U' then hexChar? spaced 8 rest
    else (ofEscaped? c).map fun a => (a, rest)

end ScriptTyping.Pattern
