import ScriptTyping.Ron.Value
import ScriptTyping.Text.Quoted

/-!
# Writing RON

`Value.compact` writes a document without any blanks.  `Value.pretty` puts the parts of a list, a map
and a record on lines of their own, indented by four blanks for each level, and keeps a tuple on one
line.

`write` writes a datum compactly.  It refuses data nested too deep; `writeNeed` is the depth that
counts: a list or a record takes two levels for what is inside it, and a tag, a wrapper or an
optional value takes one.
-/

namespace ScriptTyping.Ron

/-- The characters of a word. -/
def Word.chars (w : Word) : List Char := (if w.raw then ['r', '#'] else []) ++ w.name.toList

/-- The characters of the name before a parenthesis. -/
def nameChars : Option Word → List Char
  | none => []
  | some w => w.chars

/-- The characters of a text. The single quote is escaped as well. -/
def textChars (s : String) : List Char := Text.quote true s

/-- The characters of a character literal. -/
def charChars (c : Char) : List Char := '\'' :: Text.escape true c ++ ['\'']

mutual

/-- A document without blanks. -/
def Value.compact : Value → List Char
  | .number lexeme => lexeme.toList
  | .text s => textChars s
  | .char c => charChars c
  | .unit => ['(', ')']
  | .word w => w.chars
  | .list items => '[' :: compactItems items ++ [']']
  | .map entries => '\x7b' :: compactEntries entries ++ ['\x7d']
  | .tuple name items => nameChars name ++ '(' :: compactItems items ++ [')']
  | .record name fields => nameChars name ++ '(' :: compactFields fields ++ [')']
  | .attached v => ['S', 'o', 'm', 'e'] ++ v.compact

/-- Documents divided by commas. -/
def compactItems : List Value → List Char
  | [] => []
  | [v] => v.compact
  | v :: w :: rest => v.compact ++ ',' :: compactItems (w :: rest)

/-- Keys and values divided by commas. -/
def compactEntries : List (Value × Value) → List Char
  | [] => []
  | [(k, v)] => k.compact ++ ':' :: v.compact
  | (k, v) :: e :: rest => k.compact ++ ':' :: v.compact ++ ',' :: compactEntries (e :: rest)

/-- Fields divided by commas. -/
def compactFields : List (Word × Value) → List Char
  | [] => []
  | [(w, v)] => w.chars ++ ':' :: v.compact
  | (w, v) :: f :: rest => w.chars ++ ':' :: v.compact ++ ',' :: compactFields (f :: rest)

end

/-- The blanks before a line at the given level. -/
def indentation (level : Nat) : List Char := List.replicate (4 * level) ' '

mutual

/-- A document over several lines. `level` is the level of the line it starts on. -/
def Value.pretty (level : Nat) : Value → List Char
  | .list items =>
    if items.isEmpty then ['[', ']']
    else '[' :: '\n' :: prettyItems (level + 1) items ++ indentation level ++ [']']
  | .map entries =>
    if entries.isEmpty then ['\x7b', '\x7d']
    else '\x7b' :: '\n' :: prettyEntries (level + 1) entries ++ indentation level ++ ['\x7d']
  | .tuple name items => nameChars name ++ '(' :: prettyTuple level items ++ [')']
  | .record name fields =>
    nameChars name ++
      if fields.isEmpty then ['(', ')']
      else '(' :: '\n' :: prettyFields (level + 1) fields ++ indentation level ++ [')']
  | .attached v => ['S', 'o', 'm', 'e'] ++ v.pretty level
  | .number lexeme => lexeme.toList
  | .text s => textChars s
  | .char c => charChars c
  | .unit => ['(', ')']
  | .word w => w.chars

/-- Items on lines of their own. -/
def prettyItems (level : Nat) : List Value → List Char
  | [] => []
  | v :: rest => indentation level ++ v.pretty level ++ ',' :: '\n' :: prettyItems level rest

/-- Keys and values on lines of their own. -/
def prettyEntries (level : Nat) : List (Value × Value) → List Char
  | [] => []
  | (k, v) :: rest =>
    indentation level ++ k.pretty level ++ ':' :: ' ' :: v.pretty level ++ ',' :: '\n' ::
      prettyEntries level rest

/-- Fields on lines of their own. -/
def prettyFields (level : Nat) : List (Word × Value) → List Char
  | [] => []
  | (w, v) :: rest =>
    indentation level ++ w.chars ++ ':' :: ' ' :: v.pretty level ++ ',' :: '\n' ::
      prettyFields level rest

/-- Items on one line. -/
def prettyTuple (level : Nat) : List Value → List Char
  | [] => []
  | [v] => v.pretty level
  | v :: w :: rest => v.pretty level ++ ',' :: ' ' :: prettyTuple level (w :: rest)

end

mutual

/-- The depth of a datum that counts when it is written. -/
def writeNeed : Datum → Nat
  | .tagged _ payload => writeNeed payload + 1
  | .wrapper _ inner => writeNeed inner + 1
  | .present inner => writeNeed inner + 1
  | .list items => writeNeedItems items
  | .record _ fields => writeNeedFields fields
  | .table entries => writeNeedFields entries
  | _ => 0

/-- The depth of a list with the given items. -/
def writeNeedItems : List Datum → Nat
  | [] => 1
  | d :: rest => max (writeNeed d + 2) (writeNeedItems rest)

/-- The depth of a record or table with the given fields. -/
def writeNeedFields : List (String × Datum) → Nat
  | [] => 1
  | (_, d) :: rest => max (writeNeed d + 2) (writeNeedFields rest)

end

/-- The greatest depth that is written and the greatest that is read. -/
def depthLimit : Nat := 128

/-- Writes a datum without blanks, unless it is too deep. -/
def write (d : Datum) : Option String :=
  if writeNeed d ≤ depthLimit then some (String.ofList (Value.ofDatum d).compact) else none

/-- Writes a datum over several lines. -/
def writePretty (d : Datum) : String := String.ofList ((Value.ofDatum d).pretty 0)

end ScriptTyping.Ron
