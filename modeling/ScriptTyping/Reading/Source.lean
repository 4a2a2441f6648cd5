/-!
# Formats that trees are read from

A tree can be read from any format that can answer a few questions about a value: which number is
it, which fields does it have as a record of a given name, what does it hold as an optional value,
and so on.  `Source` is this interface.  It is the format's business how a record, a wrapper or a tag
looks; which records there are is said once, for all formats, by the readers of the tree.

A value may be of the wrong shape for the question, or be nested deeper than the format allows.
-/

namespace ScriptTyping

/-- Why a value cannot be read. -/
inductive ReadError where
  /-- The text is not a document of the format. -/
  | malformed
  /-- The value does not have the shape asked for. -/
  | shape
  /-- The value is nested too deep. -/
  | tooDeep
deriving DecidableEq

/-- A format whose values can be asked for what a tree is made of. -/
class Source (V : Type) where
  /-- The value as a natural number of 64 bits. -/
  natural : V → Except ReadError UInt64
  /-- The value as a signed number of 64 bits. -/
  integer : V → Except ReadError Int64
  /-- The value as a text. -/
  text : V → Except ReadError String
  /-- The value as a truth value. -/
  flag : V → Except ReadError Bool
  /-- The items of a list. -/
  items : V → Except ReadError (List V)
  /-- What an optional value holds. -/
  optional : V → Except ReadError (Option V)
  /-- The fields of a record of the given name. Of the fields only the known ones are given, each
  at most once; the known names come in the order of the record's declaration. -/
  fields (name : String) (known : List String) : V → Except ReadError (List (String × V))
  /-- What a wrapper of the given name holds. -/
  unwrap (name : String) : V → Except ReadError V
  /-- The tag of an alternative, with its payload if it has one. -/
  tag : V → Except ReadError (String × Option V)
  /-- The entries of a table, in order. -/
  entries : V → Except ReadError (List (String × V))
  /-- A bound on how many tags are nested in the value. -/
  reach : V → Nat

namespace Source

variable {V α : Type}

/-- The value of a field that has to be there. -/
def required (fields : List (String × V)) (name : String) : Except ReadError V :=
  match fields.lookup name with
  | some v => .ok v
  | none => .error .shape

/-- Reads a field if it is there; otherwise the default stands in. -/
def orDefault (fields : List (String × V)) (name : String) (default : α)
    (read : V → Except ReadError α) : Except ReadError α :=
  match fields.lookup name with
  | some v => read v
  | none => .ok default

end Source

end ScriptTyping
