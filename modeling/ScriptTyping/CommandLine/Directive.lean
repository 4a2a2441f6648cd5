import ScriptTyping.Pattern.Fault
import ScriptTyping.Reading.Word
import ScriptTyping.Typing.Event

/-!
# Directives

What is wanted in a log is said by directives.  A directive may name a target, by the text that
targets begin with; after it, in brackets, a stretch of a run and, in braces, a field; and after an
equals sign how much is wanted.  A directive that is just the name of a verbosity stands for
everything:

    debug        target=debug        target[stretch]=debug        [stretch{field=2}]=debug

Where the verbosity is left out, everything is wanted.

The value of a field is a number or else a pattern.  Fields of stretches are natural numbers, so no
other value is ever met, but a pattern that cannot be run is refused all the same.

White space around a directive does not count when its parts are told apart, but the parts are cut
from the directive as it stands.  So white space behind a verbosity or before a target belongs to it.
-/

namespace ScriptTyping.CommandLine

/-- What the value of a field is compared with. -/
inductive ValueTest where
  | natural (n : UInt64)
  /-- A number of another kind, or a pattern. -/
  | other (text : String)
deriving DecidableEq

/-- A condition on a field: that it is there, and possibly its value. -/
structure FieldTest where
  name : String
  value : Option ValueTest
deriving DecidableEq

/-- What is wanted of some part of a run. -/
structure Directive where
  /-- The text that targets begin with. -/
  target : Option String := none
  /-- The stretch of the run. -/
  stretch : Option String := none
  field : Option FieldTest := none
  /-- The rank of the most verbose lines that are wanted, zero for none. -/
  rank : Nat := Verbosity.trace.rank
deriving DecidableEq

/-- Why a text is no directive. -/
inductive DirectiveError where
  | malformed
  /-- What follows the equals sign is no verbosity. -/
  | verbosity
  /-- The value of a field is a pattern that cannot be run. -/
  | pattern (f : Pattern.Fault)
deriving DecidableEq

/-- The text of the error. -/
def DirectiveError.message : DirectiveError → String
  | malformed => "invalid filter directive"
  | verbosity =>
    "error parsing level filter: expected one of \"off\", \"error\", \"warn\", \"info\", \"debug\", "
      ++ "\"trace\", or a number 0-5"
  | pattern f => "invalid field filter: " ++ f.message

/-- The value of decimal digits, of which there has to be one. -/
def decimal? (cs : List Char) : Option Nat :=
  if cs.isEmpty || !cs.all Char.isDigit then none
  else some (cs.foldl (fun n c => 10 * n + (c.toNat - '0'.toNat)) 0)

/-- The value of a natural number, which may begin with a plus sign and with zeros. -/
def natural? : List Char → Option Nat
  | '+' :: rest => decimal? rest
  | cs => decimal? cs

/-- The rank of the most verbose lines that the given word or number asks for. -/
def rankOfWord? (s : String) : Option Nat :=
  match (natural? s.toList).filter (· ≤ Verbosity.trace.rank) with
  | some n => some n
  | none => ["off", "error", "warn", "info", "debug", "trace"].idxOf? (s.map Char.toLower)

/-- Whether characters are a number of any kind. -/
def isNumber (cs : List Char) : Bool :=
  let cs := if cs.head? = some '+' ∨ cs.head? = some '-' then cs.drop 1 else cs
  Text.isUnsignedFloat cs
    || ["inf", "infinity", "nan"].contains (String.ofList (cs.map Char.toLower))

/-- Reads the value of a field. -/
def ValueTest.ofText (s : String) : Except DirectiveError ValueTest :=
  match (natural? s.toList).bind Word.ofNat? with
  | some n => .ok (.natural n)
  | none =>
    match if isNumber s.toList then none else Pattern.fault? s with
    | none => .ok (.other s)
    | some f => .error (.pattern f)

/-- Whether a field has the value that is asked for, if any. -/
def FieldTest.holdsOf (t : FieldTest) (n : Nat) : Bool :=
  match t.value with
  | none => true
  | some (.natural m) => m.toNat == n
  | some (.other _) => false

namespace Directive

/-- The characters that a target can begin with. -/
def isTargetStart (c : Char) : Bool := c == '-' || c == ':' || c == '_' || Text.isAlphanumeric c

/-- A part of a directive, by its place in the text. -/
def cut (cs : List Char) (start size : Nat) : String := String.ofList ((cs.drop start).take size)

/-- The rank that the text behind an equals sign asks for. -/
def rankOfRest (s : String) : Except DirectiveError Nat :=
  if s.isEmpty then .ok Verbosity.trace.rank
  else
    match rankOfWord? s with
    | some rank => .ok rank
    | none => .error .verbosity

/-- Completes a directive with the verbosity that begins at the given place. -/
def withRank (cs : List Char) (start : Nat) (d : Directive) : Except DirectiveError Directive := do
  let rank ← rankOfRest (String.ofList (cs.drop start))
  return { d with rank := rank }

/-- Reads the end of a directive, behind its brackets. -/
def afterBrackets (cs : List Char) (start : Nat) (d : Directive) :
    List Char → Except DirectiveError Directive
  | [] => .ok d
  | '=' :: _ => withRank cs (start + 1) d
  | _ => .error .malformed

/-- The condition on a field that a text stands for. What follows a second equals sign does not
count. -/
def fieldTest (s : String) : Except DirectiveError FieldTest :=
  match s.splitOn "=" with
  | name :: value :: _ => (ValueTest.ofText value).map fun v => ⟨name, some v⟩
  | _ => .ok ⟨s, none⟩

/-- Reads a condition on a field and what follows it, behind the opening brace. -/
def afterBrace (cs : List Char) (start : Nat) (d : Directive) (rest : List Char) :
    Except DirectiveError Directive :=
  let size := (rest.takeWhile (· != '\x7d')).length
  let text := cut cs start size
  match rest.drop size with
  | [] => .error .malformed
  | _ :: rest =>
    if text.isEmpty then .error .malformed
    else
      match fieldTest text, rest with
      | .error e, _ => .error e
      | .ok t, ']' :: rest => afterBrackets cs (start + size + 2) { d with field := some t } rest
      | .ok _, _ => .error .malformed

/-- Reads the name of a stretch and what follows it, behind the opening bracket. -/
def afterBracket (cs : List Char) (start : Nat) (d : Directive) (rest : List Char) :
    Except DirectiveError Directive :=
  let size := (rest.takeWhile fun c => c != ']' && c != '\x7b').length
  let name := cut cs start size
  match rest.drop size with
  | ']' :: rest => afterBrackets cs (start + size + 1) { d with stretch := some name } rest
  | _ :: rest =>
    let stretch := if name.isEmpty then none else some name
    afterBrace cs (start + size + 1) { d with stretch := stretch } rest
  | [] => .error .malformed

/-- The directive that is a single word: a verbosity, or a target. -/
def ofWord (s : String) : Directive :=
  match rankOfWord? s with
  | some rank => { rank := rank }
  | none => { target := some s }

/-- Reads a directive. -/
def ofChars (cs : List Char) : Except DirectiveError Directive :=
  match Text.trimSpace cs with
  | [] => .error .malformed
  | c :: rest =>
    if c = '[' then afterBracket cs 1 {} rest
    else if !isTargetStart c then .error .malformed
    else
      let size := ((c :: rest).takeWhile fun c => c != '=' && c != '[').length
      let d : Directive := { target := some (cut cs 0 size) }
      match (c :: rest).drop size with
      | [] => .ok (ofWord (String.ofList cs))
      | '=' :: _ => withRank cs (size + 1) d
      | _ :: rest => afterBracket cs (size + 1) d rest

/-- Reads a directive from its text. -/
def ofText (s : String) : Except DirectiveError Directive := ofChars s.toList

end Directive

end ScriptTyping.CommandLine
