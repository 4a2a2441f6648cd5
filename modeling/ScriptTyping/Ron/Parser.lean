import ScriptTyping.Ron.Blank
import ScriptTyping.Ron.Text
import ScriptTyping.Ron.Value

/-!
# Reading RON documents

A document is a value after any number of attributes that enable extensions.  Parts of a list, a map
or a group in parentheses are divided by commas, and one comma may follow the last of them.

A group in parentheses holds fields if it begins with a word and a colon, and values otherwise.  The
name of a field is any word; the key in a map is any value.

The readers of nested values take a number of steps that they may use.  The characters of a group or
a word pay for the steps it takes, two for each character, so twice the length of the text is always
enough.
-/

namespace ScriptTyping.Ron

/-- The characters a word can begin with. -/
def isWordStart (c : Char) : Bool := c.isAlpha || c == '_'

/-- The characters of a word. -/
def isWordChar (c : Char) : Bool := c.isAlphanum || c == '_'

/-- The characters of a raw word. -/
def isRawWordChar (c : Char) : Bool := isWordChar c || c == '.' || c == '+' || c == '-'

/-- Reads a word that is not raw. -/
def plainWord? : List Char → Option (Word × List Char)
  | [] => none
  | c :: rest =>
    if isWordStart c then
      some (⟨String.ofList (c :: rest.takeWhile isWordChar), false⟩, rest.dropWhile isWordChar)
    else none

/-- Reads a word. -/
def word? : List Char → Option (Word × List Char)
  | 'r' :: '#' :: rest =>
    match rest.takeWhile isRawWordChar with
    | [] => none
    | name => some (⟨String.ofList name, true⟩, rest.dropWhile isRawWordChar)
  | cs => plainWord? cs

/-- Whether the contents of a group begin with a word and a colon. -/
def beginsRecord (cs : List Char) : Bool :=
  match word? cs with
  | none => false
  | some (_, rest) =>
    match skipBlanks rest with
    | some (':' :: _) => true
    | _ => false

/-- Passes over the given characters and the blanks after them. -/
def expect? (token : List Char) (cs : List Char) : Option (List Char) :=
  if token.isPrefixOf cs then skipBlanks (cs.drop token.length) else none

/-- What follows a part of a group: a comma and then more of the group, or its end. -/
def afterPart? (close : Char) (cs : List Char) : Option (List Char) := do
  match ← skipBlanks cs with
  | ',' :: rest => skipBlanks rest
  | c :: rest => if c = close then some (c :: rest) else none
  | [] => none

mutual

/-- Reads a value that begins right here. -/
def parseValue (ext : Extensions) : Nat → List Char → Option (Value × List Char)
  | 0, _ => none
  | _ + 1, [] => none
  | n + 1, c :: rest =>
    if c = '"' then (scanText .plain rest).map fun r => (.text (String.ofList r.1), r.2)
    else if c = '\'' then (scanChar rest).map fun r => (.char r.1, r.2)
    else if c = '[' then (parseItems ext ']' n rest).map fun r => (.list r.1, r.2)
    else if c = '\x7b' then (parseEntries ext n rest).map fun r => (.map r.1, r.2)
    else if c = '(' then
      match rest with
      | ')' :: rest' => some (.unit, rest')
      | _ => parseGroup ext none n rest
    else if isNumberStart c then
      some (.number (String.ofList (c :: rest.takeWhile isNumberChar)),
        rest.dropWhile isNumberChar)
    else
      match (if c = 'r' then scanRaw? rest else none) with
      | some (s, rest') => some (.text (String.ofList s), rest')
      | none => (word? (c :: rest)).bind fun r => parseAfterWord ext r.1 n r.2

/-- Reads what a word begins: a group with that name, or the word alone. Where `Some` may be left
out, it may also stand before its value without parentheses, and directly before a raw word. -/
def parseAfterWord (ext : Extensions) (w : Word) : Nat → List Char → Option (Value × List Char)
  | 0, _ => none
  | n + 1, cs =>
    if ext.implicitSome && w.isKeyword "Somer" && cs.head? == some '#' then
      match word? ('r' :: cs) with
      | none => none
      | some (w', rest) => (parseAfterWord ext w' n rest).map fun r => (.attached r.1, r.2)
    else
      match skipBlanks cs with
      | none => none
      | some ('(' :: rest) => parseGroup ext (some w) n rest
      | some rest =>
        if ext.implicitSome && w.isKeyword "Some" then
          match parseValue ext n rest with
          | some (v, rest') => some (.tuple (some w) [v], rest')
          | none => some (.word w, rest)
        else some (.word w, rest)

/-- Reads the contents of a group, after its opening parenthesis. -/
def parseGroup (ext : Extensions) (name : Option Word) :
    Nat → List Char → Option (Value × List Char)
  | 0, _ => none
  | n + 1, cs =>
    match skipBlanks cs with
    | none => none
    | some cs' =>
      if beginsRecord cs' then
        (parseFields ext n cs').map fun r => (.record name r.1, r.2)
      else (parseItems ext ')' n cs').map fun r => (.tuple name r.1, r.2)

/-- Reads values up to the closing character. -/
def parseItems (ext : Extensions) (close : Char) :
    Nat → List Char → Option (List Value × List Char)
  | 0, _ => none
  | n + 1, cs =>
    match skipBlanks cs with
    | none => none
    | some [] => none
    | some (c :: rest) =>
      if c = close then some ([], rest)
      else
        match parseValue ext n (c :: rest) with
        | none => none
        | some (v, rest') =>
          match afterPart? close rest' with
          | none => none
          | some rest'' => (parseItems ext close n rest'').map fun r => (v :: r.1, r.2)

/-- Reads the entries of a map up to its closing brace. -/
def parseEntries (ext : Extensions) : Nat → List Char → Option (List (Value × Value) × List Char)
  | 0, _ => none
  | n + 1, cs =>
    match skipBlanks cs with
    | none => none
    | some [] => none
    | some (c :: rest) =>
      if c = '\x7d' then some ([], rest)
      else
        match parseValue ext n (c :: rest) with
        | none => none
        | some (k, afterKey) =>
          match (skipBlanks afterKey).bind (expect? [':']) with
          | none => none
          | some beforeValue =>
            match parseValue ext n beforeValue with
            | none => none
            | some (v, rest') =>
              match afterPart? '\x7d' rest' with
              | none => none
              | some rest'' => (parseEntries ext n rest'').map fun r => ((k, v) :: r.1, r.2)

/-- Reads the fields of a record up to its closing parenthesis. -/
def parseFields (ext : Extensions) : Nat → List Char → Option (List (Word × Value) × List Char)
  | 0, _ => none
  | n + 1, cs =>
    match skipBlanks cs with
    | none => none
    | some [] => none
    | some (c :: rest) =>
      if c = ')' then some ([], rest)
      else
        match word? (c :: rest) with
        | none => none
        | some (w, afterName) =>
          match (skipBlanks afterName).bind (expect? [':']) with
          | none => none
          | some beforeValue =>
            match parseValue ext n beforeValue with
            | none => none
            | some (v, rest') =>
              match afterPart? ')' rest' with
              | none => none
              | some rest'' => (parseFields ext n rest'').map fun r => ((w, v) :: r.1, r.2)

end

/-! ## Attributes -/

/-- Reads the names in an attribute: at least one, with a comma between any two. -/
def parseNames : Nat → Extensions → List Char → Option (Extensions × List Char)
  | 0, _, _ => none
  | n + 1, ext, cs => do
    let (w, rest) ← word? cs
    let e ← Extensions.ofName? w.name
    match ← skipBlanks rest with
    | ',' :: rest =>
      let rest ← skipBlanks rest
      if (rest.head?.map isWordChar).getD false then parseNames n (ext.union e) rest
      else some (ext.union e, rest)
    | rest => some (ext.union e, rest)

/-- Reads one attribute, after its opening `#`. -/
def parseAttribute (ext : Extensions) (cs : List Char) : Option (Extensions × List Char) := do
  let cs ← expect? ['!'] (← skipBlanks cs)
  let cs ← expect? ['['] cs
  let cs ← expect? ['e', 'n', 'a', 'b', 'l', 'e'] cs
  let cs ← expect? ['('] cs
  let (ext, cs) ← parseNames (cs.length + 1) ext cs
  let cs ← expect? [')'] cs
  let cs ← expect? [']'] cs
  return (ext, cs)

/-- Reads the attributes before a value. -/
def parseAttributes : Nat → Extensions → List Char → Option (Extensions × List Char)
  | 0, _, _ => none
  | n + 1, ext, '#' :: rest => do
    let (ext, rest) ← parseAttribute ext rest
    parseAttributes n ext rest
  | _ + 1, ext, cs => some (ext, cs)

/-- Reads a whole document. Nothing but blanks may follow the value. -/
def parse (s : String) : Option (Extensions × Value) := do
  let cs ← skipBlanks s.toList
  let (ext, cs) ← parseAttributes (cs.length + 1) {} cs
  let (v, rest) ← parseValue ext (2 * cs.length + 2) cs
  match ← skipBlanks rest with
  | [] => return (ext, v)
  | _ :: _ => none

end ScriptTyping.Ron
