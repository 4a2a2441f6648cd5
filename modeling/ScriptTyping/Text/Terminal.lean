/-!
# Control sequences of terminals

A terminal takes some characters as commands: control characters, and sequences that begin with the
escape character.  Messages that are meant for a terminal use such sequences for colour.  Where they
go elsewhere, `visible` leaves only what a terminal would show, and it does so for the whole
message, whatever the parts that it was put together from contain.

The scan follows the sequences state by state, so that a sequence is passed over up to its end and
no further.  White space is shown even within a sequence, and ends the passing over.
-/

namespace ScriptTyping.Text.Terminal

/-- Where the scan stands within a control sequence. -/
inductive State where
  /-- Outside of control sequences. -/
  | ground
  /-- After the escape character. -/
  | escape
  | escapeIntermediate
  /-- In a sequence with parameters, right after the characters that begin it. -/
  | entry
  | parameters
  | intermediate
  /-- In a sequence that makes no sense. -/
  | ignored
  /-- In a sequence with parameters that a text follows, right after the characters that begin it. -/
  | deviceEntry
  | deviceParameters
  | deviceIntermediate
  /-- In a text that the end mark ends. -/
  | text
  /-- In a text that the bell ends. -/
  | command
deriving DecidableEq

/-- What a character does to the scan: it leads to another state or to none, and it is shown or
not. -/
structure Effect where
  next : Option State := none
  shown : Bool := false
deriving DecidableEq

/-- Whether a control character is white space. -/
def isControlSpace (n : Nat) : Bool := n == 0x9 || n == 0xa || n == 0xc || n == 0xd

/-- What a control character does where it is carried out. -/
def control (n : Nat) : Effect := ⟨none, isControlSpace n⟩

/-- Whether the end mark is among the bytes of a character. -/
def hasEndMark (c : Char) : Bool := (String.utf8EncodeChar c).contains 0x9c

/-- The state after a character that follows the escape character. -/
def afterEscape (n : Nat) : State :=
  if n < 0x30 then .escapeIntermediate
  else if n = 0x5b then .entry
  else if n = 0x5d then .command
  else if n = 0x50 then .deviceEntry
  else if n = 0x58 ∨ n = 0x5e ∨ n = 0x5f then .text
  else .ground

/-- What an ASCII character other than those that work in every state does. -/
def stepAscii (s : State) (n : Nat) : Effect :=
  match s with
  | .ground => if n < 0x20 then control n else ⟨none, n != 0x7f⟩
  | .escape =>
    if n < 0x20 then control n else if n = 0x7f then {} else ⟨some (afterEscape n), false⟩
  | .escapeIntermediate =>
    if n < 0x20 then control n else if n < 0x30 ∨ n = 0x7f then {} else ⟨some .ground, false⟩
  | .entry =>
    if n < 0x20 then control n
    else if n = 0x7f then {}
    else if n < 0x30 then ⟨some .intermediate, false⟩
    else if n < 0x40 then ⟨some .parameters, false⟩
    else ⟨some .ground, false⟩
  | .parameters =>
    if n < 0x20 then control n
    else if n = 0x7f then {}
    else if n < 0x30 then ⟨some .intermediate, false⟩
    else if n < 0x3c then {}
    else if n < 0x40 then ⟨some .ignored, false⟩
    else ⟨some .ground, false⟩
  | .intermediate =>
    if n < 0x20 then control n
    else if n < 0x30 ∨ n = 0x7f then {}
    else if n < 0x40 then ⟨some .ignored, false⟩
    else ⟨some .ground, false⟩
  | .ignored =>
    if n < 0x20 then control n
    else if n < 0x40 ∨ n = 0x7f then {}
    else ⟨some .ground, false⟩
  | .deviceEntry =>
    if n < 0x20 ∨ n = 0x7f then {}
    else if n < 0x30 then ⟨some .deviceIntermediate, false⟩
    else if n < 0x40 then ⟨some .deviceParameters, false⟩
    else ⟨some .text, false⟩
  | .deviceParameters =>
    if n < 0x20 ∨ n = 0x7f then {}
    else if n < 0x30 then ⟨some .deviceIntermediate, false⟩
    else if n < 0x3c then {}
    else ⟨some .text, false⟩
  | .deviceIntermediate =>
    if n < 0x30 ∨ n = 0x7f then {} else ⟨some .text, false⟩
  | .text => {}
  | .command => if n = 0x7 then ⟨some .ground, false⟩ else {}

/-- What a character does in a state. The escape character begins a sequence anywhere, and two
control characters break one off. -/
def step (s : State) (c : Char) : Effect :=
  let n := c.toNat
  if n = 0x1b then ⟨some .escape, false⟩
  else if n = 0x18 ∨ n = 0x1a then ⟨some .ground, false⟩
  else if n < 0x80 then stepAscii s n
  else if s = .ground then ⟨some .ground, true⟩
  else if s = .text ∧ hasEndMark c then ⟨some .ground, false⟩
  else {}

/-- The characters that are shown, from a state on. While characters are being shown, they are taken
as if outside of sequences, until one is not shown; the scan then goes on from the state that it was
in. -/
def visibleFrom (showing : Bool) (s : State) : List Char → List Char
  | [] => []
  | c :: rest =>
    let effect := step (if showing then .ground else s) c
    let s := effect.next.getD s
    if effect.shown then c :: visibleFrom true s rest
    else if showing then visibleFrom false ((step s c).next.getD s) rest
    else visibleFrom false s rest

/-- The part of a text that a terminal shows. -/
def visible (s : String) : String := String.ofList (visibleFrom false .ground s.toList)

/-- A text in the given style, which ends with the text. -/
def styled (style : String) (s : String) : String := "\x1b[" ++ style ++ "m" ++ s ++ "\x1b[0m"

end ScriptTyping.Text.Terminal
