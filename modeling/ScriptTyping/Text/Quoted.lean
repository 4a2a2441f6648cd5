import ScriptTyping.Text.Unprintable

/-!
# Quoted text

Text is written between double quotes.  Inside, a quote and a backslash follow a backslash, the
common control characters have short escapes, and any other character that does not print is
written as its code point in hexadecimal.  Some formats escape the single quote as well.
-/

namespace ScriptTyping.Text

/-- The escape of a character by its code point. -/
def escapeCode (c : Char) : List Char :=
  ['\\', 'u', '\x7b'] ++ Nat.toDigits 16 c.toNat ++ ['\x7d']

/-- A character as it is written between quotes. `single` asks for the single quote to be
escaped. -/
def escape (single : Bool) (c : Char) : List Char :=
  if c = '"' then ['\\', '"']
  else if c = '\\' then ['\\', '\\']
  else if c = '\n' then ['\\', 'n']
  else if c = '\r' then ['\\', 'r']
  else if c = '\t' then ['\\', 't']
  else if c = '\x00' then ['\\', '0']
  else if c = '\'' then (if single then ['\\', '\''] else ['\''])
  else if isUnprintable c then escapeCode c
  else [c]

/-- A text between quotes. -/
def quote (single : Bool) (s : String) : List Char :=
  '"' :: s.toList.flatMap (escape single) ++ ['"']

/-- A text between double quotes, single quotes left alone. -/
def quoted (s : String) : String := String.ofList (quote false s)

end ScriptTyping.Text
