import ScriptTyping.Reading.Source
import ScriptTyping.Ron.Parser
import ScriptTyping.Ron.Writer

/-!
# Reading from RON

What the values of a RON document answer when they are read as parts of a tree.

A `Cursor` is a value together with what is known about its place in the document: the extensions in
force, how many levels of nesting are left, and whether the value is the payload of a tag whose
parentheses stand for the value's own.  Levels are used up on the way in: one by a wrapper or an
optional value, two by a list, a map, a record or a tag, and by an empty one of the first three just
one.  There are `depthLimit` levels in all.

Fields that a record does not know are passed over, but what they hold has to be a value all the
same, and it may not be too deep either.
-/

namespace ScriptTyping.Ron

/-- Takes levels of nesting from those that are left. -/
def spend (room levels : Nat) : Except ReadError Nat :=
  if levels ≤ room then .ok (room - levels) else .error .tooDeep

/-! ## Values that are passed over -/

/-- The words that stand for a value by themselves, so that no group can have them as its name. -/
def isLoneWord (w : Word) : Bool :=
  ["true", "false", "None", "inf", "NaN"].any w.isKeyword

mutual

/-- Passes over a value, which must not use more levels than there are. -/
def Value.skip (room : Nat) : Value → Except ReadError Unit
  | .number lexeme => if isNumber lexeme then .ok () else .error .shape
  | .text _ => .ok ()
  | .char _ => .ok ()
  | .unit => .ok ()
  | .word w => if w.isKeyword "Some" then .error .shape else .ok ()
  | .list items => do
    let room ← spend room 1
    skipItems room items
  | .map entries => do
    let room ← spend room 1
    skipEntries room entries
  | .tuple none items => do
    let room ← spend room 1
    skipItems room items
  | .tuple (some w) items =>
    if isLoneWord w then .error .shape
    else if w.isKeyword "Some" then
      match items with
      | [v] => do
        let room ← spend room 1
        v.skip room
      | _ => .error .shape
    else do
      let room ← spend room 1
      skipItems room items
  | .record none fields => do
    let room ← spend room 1
    skipFields room fields
  | .record (some w) fields =>
    if isLoneWord w || w.isKeyword "Some" then .error .shape
    else do
      let room ← spend room 1
      skipFields room fields
  | .attached _ => .error .shape

/-- Passes over the items of a list. -/
def skipItems (room : Nat) : List Value → Except ReadError Unit
  | [] => .ok ()
  | v :: rest => do
    let inner ← spend room 1
    v.skip inner
    skipItems room rest

/-- Passes over keys and values. -/
def skipEntries (room : Nat) : List (Value × Value) → Except ReadError Unit
  | [] => .ok ()
  | (k, v) :: rest => do
    let inner ← spend room 1
    k.skip inner
    v.skip inner
    skipEntries room rest

/-- Passes over fields. -/
def skipFields (room : Nat) : List (Word × Value) → Except ReadError Unit
  | [] => .ok ()
  | (_, v) :: rest => do
    let inner ← spend room 1
    v.skip inner
    skipFields room rest

end

/-! ## Cursors -/

/-- A value and its place in a document. -/
structure Cursor where
  value : Value
  ext : Extensions
  /-- The levels of nesting that are left. -/
  room : Nat
  /-- Whether the value is the contents of a tag, in the parentheses of the tag. -/
  opened : Bool := false

namespace Cursor

/-- A part of the value, with the given levels left. -/
def inside (c : Cursor) (room : Nat) (v : Value) : Cursor := ⟨v, c.ext, room, false⟩

/-- The value that stands alone in a pair of parentheses. -/
def single? : Value → Option Value
  | .tuple none [v] => some v
  | _ => none

/-- Whether a name before a parenthesis may introduce what is called by the given name. It may
always be left out. -/
def nameFits (name : String) : Option Word → Bool
  | none => true
  | some w => w.name == name

/-- The fields between the parentheses of a record. -/
def contents (name : String) : Value → Except ReadError (List (Word × Value))
  | .unit => .ok []
  | .tuple w [] => if nameFits name w then .ok [] else .error .shape
  | .record w fields => if nameFits name w then .ok fields else .error .shape
  | _ => .error .shape

/-- Whether a name is among those of the given fields. -/
def hasField (name : String) (fields : List (Word × Value)) : Bool :=
  fields.any (·.1.name == name)

/-- The known fields of a record. Each of them occurs at most once, and the others are passed over.
-/
def knownFields (c : Cursor) (room : Nat) (known : List String) :
    List (Word × Value) → Except ReadError (List (String × Cursor))
  | [] => .ok []
  | (w, v) :: rest =>
    if known.contains w.name then
      if hasField w.name rest then .error .shape
      else do
        let more ← knownFields c room known rest
        return (w.name, c.inside room v) :: more
    else do
      v.skip room
      knownFields c room known rest

/-- The known fields of a record of the given name. -/
def fields (name : String) (known : List String) (c : Cursor) :
    Except ReadError (List (String × Cursor)) := do
  match ← contents name c.value with
  | [] =>
    let _ ← spend c.room 1
    return []
  | entries =>
    let room ← spend c.room 2
    c.knownFields room known entries

/-- What a wrapper of the given name holds. -/
def unwrap (name : String) (c : Cursor) : Except ReadError Cursor := do
  let room ← spend c.room 1
  if c.opened then
    match single? c.value with
    | some v => return c.inside room v
    | none => throw .shape
  else if c.ext.unwrapNewtypes then return c.inside room c.value
  else
    match c.value with
    | .tuple w [v] => if nameFits name w then return c.inside room v else throw .shape
    | _ => throw .shape

/-- The payload in the parentheses of a tag. It is the one value there, or it is the contents of the
parentheses if the document leaves out what would be around them. -/
def payload (c : Cursor) (room : Nat) (group : Value) : Except ReadError Cursor :=
  if c.ext.unwrapVariantNewtypes then .ok ⟨group, c.ext, room, true⟩
  else
    match single? group with
    | some v => .ok (c.inside room v)
    | none => .error .shape

/-- The tag that the value is, with its payload. -/
def tagOf (c : Cursor) (room : Nat) : Value → Except ReadError (String × Option Cursor)
  | .word w => .ok (w.name, none)
  | .tuple (some w) items => do return (w.name, some (← c.payload room (.tuple none items)))
  | .record (some w) fields => do return (w.name, some (← c.payload room (.record none fields)))
  | _ => .error .shape

/-- The tag of an alternative and its payload. -/
def tag (c : Cursor) : Except ReadError (String × Option Cursor) := do
  let room ← spend c.room 2
  if c.opened then
    match single? c.value with
    | some v => c.tagOf room v
    | none => throw .shape
  else c.tagOf room c.value

/-- A word without the `Some` that it begins with. -/
def wordAfterSome (w : Word) : Word :=
  if !w.raw && "Some".isPrefixOf w.name then { w with name := (w.name.drop 4).toString } else w

/-- A value without the `Some` that stands directly before it. -/
def afterSome : Value → Value
  | .word w => .word (wordAfterSome w)
  | .tuple (some w) items => .tuple (some (wordAfterSome w)) items
  | .record (some w) fields => .record (some (wordAfterSome w)) fields
  | .attached v => v
  | v => v

/-- What an optional value holds. -/
def optional (c : Cursor) : Except ReadError (Option Cursor) :=
  match c.value with
  | .word w =>
    if w.isKeyword "None" then .ok none else bare
  | .tuple (some w) items =>
    if w.isKeyword "Some" then
      match items with
      | [v] => do return some (c.inside (← spend c.room 1) v)
      | _ => .error .shape
    else bare
  | .record (some w) _ => if w.isKeyword "Some" then .error .shape else bare
  | _ => bare
where
  /-- A value without parentheses for `Some`, which may stand directly before it. -/
  bare : Except ReadError (Option Cursor) :=
    if c.ext.implicitSome then do return some (c.inside (← spend c.room 1) (afterSome c.value))
    else .error .shape

/-- The items of a list. -/
def items (c : Cursor) : Except ReadError (List Cursor) :=
  match c.value with
  | .list [] => do
    let _ ← spend c.room 1
    return []
  | .list vs => do
    let room ← spend c.room 2
    return vs.map (c.inside room)
  | _ => .error .shape

/-- The entries of a map whose keys are texts. -/
def textEntries (c : Cursor) (room : Nat) :
    List (Value × Value) → Except ReadError (List (String × Cursor))
  | [] => .ok []
  | (.text key, v) :: rest => do return (key, c.inside room v) :: (← textEntries c room rest)
  | _ :: _ => .error .shape

/-- The entries of a map. -/
def entries (c : Cursor) : Except ReadError (List (String × Cursor)) :=
  match c.value with
  | .map [] => do
    let _ ← spend c.room 1
    return []
  | .map es => do
    let room ← spend c.room 2
    c.textEntries room es
  | _ => .error .shape

/-- The value as a natural number. -/
def natural (c : Cursor) : Except ReadError UInt64 :=
  match c.value with
  | .number lexeme =>
    match natural? lexeme with
    | some n => .ok n
    | none => .error .shape
  | _ => .error .shape

/-- The value as a signed number. -/
def integer (c : Cursor) : Except ReadError Int64 :=
  match c.value with
  | .number lexeme =>
    match integer? lexeme with
    | some n => .ok n
    | none => .error .shape
  | _ => .error .shape

/-- The value as a text. -/
def text (c : Cursor) : Except ReadError String :=
  match c.value with
  | .text s => .ok s
  | _ => .error .shape

/-- The value as a truth value. -/
def flag (c : Cursor) : Except ReadError Bool :=
  match c.value with
  | .word w =>
    if w.isKeyword "true" then .ok true
    else if w.isKeyword "false" then .ok false
    else .error .shape
  | _ => .error .shape

end Cursor

instance : Source Cursor where
  natural := Cursor.natural
  integer := Cursor.integer
  text := Cursor.text
  flag := Cursor.flag
  items := Cursor.items
  optional := Cursor.optional
  fields := Cursor.fields
  unwrap := Cursor.unwrap
  tag := Cursor.tag
  entries := Cursor.entries
  reach := Cursor.room

/-- Reads a document as whatever `reader` reads. -/
def read {α : Type} (reader : Cursor → Except ReadError α) (s : String) : Except ReadError α :=
  match parse s with
  | none => .error .malformed
  | some (ext, v) => reader ⟨v, ext, depthLimit, false⟩

end ScriptTyping.Ron
