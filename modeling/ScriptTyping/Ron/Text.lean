import ScriptTyping.Ron.Number

/-!
# Texts and characters

A text stands between double quotes and may contain escapes, or it is raw: after `r` and any number
of `#` it runs from a double quote to the next double quote that the same number of `#` follows, and
nothing inside it is an escape.

The scan of an escaped text goes over the characters one by one; `EscapeState` is where it stands
within an escape.
-/

namespace ScriptTyping.Ron

/-- Where the scan of a text stands. -/
inductive EscapeState where
  /-- Outside of escapes. -/
  | plain
  /-- After a backslash. -/
  | backslash
  /-- Before the first of two hexadecimal digits. -/
  | byte
  /-- Before the second of two hexadecimal digits, of which the first has this value. -/
  | byteAfter (high : Nat)
  /-- Before the brace that opens a code point. -/
  | brace
  /-- Within a code point, after this number of digits of this value. -/
  | code (value digits : Nat)
deriving DecidableEq

/-- The character of an escape that is a single character after the backslash. -/
def shortEscape? (c : Char) : Option Char :=
  if c = '"' then some '"'
  else if c = '\'' then some '\''
  else if c = '\\' then some '\\'
  else if c = 'n' then some '\n'
  else if c = 'r' then some '\r'
  else if c = 't' then some '\t'
  else if c = '0' then some '\x00'
  else none

/-- The character with the given code point, if it is one. -/
def charOfCode? (n : Nat) : Option Char := if n.isValidChar then some (Char.ofNat n) else none

/-- What one character does to the scan of a text within an escape: it ends the escape with a
character, or leads to another state, or is an error. -/
def EscapeState.step : EscapeState → Char → Option (EscapeState × Option Char)
  | .plain, c => if c = '\\' then some (.backslash, none) else some (.plain, some c)
  | .backslash, c =>
    if c = 'x' then some (.byte, none)
    else if c = 'u' then some (.brace, none)
    else (shortEscape? c).map fun d => (.plain, some d)
  | .byte, c => (Text.hexValue? c).map fun d => (.byteAfter d, none)
  | .byteAfter high, c => (Text.hexValue? c).map fun d => (.plain, some (Char.ofNat (16 * high + d)))
  | .brace, c => if c = '\x7b' then some (.code 0 0, none) else none
  | .code value digits, c =>
    if c = '\x7d' then
      if digits = 0 then none else (charOfCode? value).map fun d => (.plain, some d)
    else if digits < 6 then (Text.hexValue? c).map fun d => (.code (16 * value + d) (digits + 1), none)
    else none

/-- Scans an escaped text up to its closing quote. The result is the text and what follows it. -/
def scanText : EscapeState → List Char → Option (List Char × List Char)
  | _, [] => none
  | state, c :: rest =>
    if state = .plain ∧ c = '"' then some ([], rest)
    else
      match state.step c with
      | none => none
      | some (next, none) => scanText next rest
      | some (next, some d) => (scanText next rest).map fun r => (d :: r.1, r.2)

/-- Scans a raw text up to a quote that the given characters follow. -/
def scanRawText (hashes : List Char) : List Char → Option (List Char × List Char)
  | [] => none
  | c :: rest =>
    if c = '"' ∧ hashes.isPrefixOf rest then some ([], rest.drop hashes.length)
    else (scanRawText hashes rest).map fun r => (c :: r.1, r.2)

/-- Scans a raw text, from what follows its `r` on. -/
def scanRaw? (cs : List Char) : Option (List Char × List Char) :=
  let hashes := cs.takeWhile (· == '#')
  match cs.dropWhile (· == '#') with
  | '"' :: rest => scanRawText hashes rest
  | _ => none

/-- Scans the escape of a character literal, up to the character it stands for. -/
def scanEscape : EscapeState → List Char → Option (Char × List Char)
  | _, [] => none
  | state, c :: rest =>
    match state.step c with
    | none => none
    | some (next, none) => scanEscape next rest
    | some (_, some d) => some (d, rest)

/-- Scans a character literal, from what follows its opening quote on. -/
def scanChar : List Char → Option (Char × List Char)
  | [] => none
  | c :: rest =>
    if c = '\'' then none
    else
      match scanEscape .plain (c :: rest) with
      | some (d, '\'' :: rest') => some (d, rest')
      | _ => none

end ScriptTyping.Ron
