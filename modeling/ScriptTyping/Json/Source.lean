import ScriptTyping.Json.Basic
import ScriptTyping.Reading.Source
import ScriptTyping.Reading.Word

/-!
# Reading from JSON

What the values of JSON answer when they are read as parts of a tree.

A record is an object with its fields by name; fields of other names are passed over.  It may also be
a list of its fields in the order of their declaration, where the last ones can be left out.  A
wrapper leaves no trace in JSON, an absent value is `null`, and a tag without payload may be written
as a field that is `null`.
-/

namespace ScriptTyping.Json

/-- The number, if it is a natural number of 64 bits. -/
def natural : Json → Except ReadError UInt64
  | .int (.ofNat n) => (Word.ofNat? n).elim (.error .shape) .ok
  | _ => .error .shape

/-- The number, if it is a signed number of 64 bits. -/
def integer : Json → Except ReadError Int64
  | .int n => (Word.ofInt? n).elim (.error .shape) .ok
  | _ => .error .shape

/-- Whether a name occurs among the fields of an object. -/
def hasField (name : String) (fields : List (String × Json)) : Bool :=
  fields.any (·.1 == name)

/-- The known fields among those of an object. A known field must not occur twice. -/
def knownFields (known : List String) :
    List (String × Json) → Except ReadError (List (String × Json))
  | [] => .ok []
  | (name, j) :: rest =>
    if known.contains name then
      if hasField name rest then .error .shape
      else (knownFields known rest).map ((name, j) :: ·)
    else knownFields known rest

/-- The known fields of a record. -/
def fields (known : List String) : Json → Except ReadError (List (String × Json))
  | .obj fs => knownFields known fs
  | .arr items => if items.length ≤ known.length then .ok (known.zip items) else .error .shape
  | _ => .error .shape

/-- The tag of an alternative and its payload. -/
def tag : Json → Except ReadError (String × Option Json)
  | .str name => .ok (name, none)
  | .obj [(name, .null)] => .ok (name, none)
  | .obj [(name, payload)] => .ok (name, some payload)
  | _ => .error .shape

instance : Source Json where
  natural := natural
  integer := integer
  text
    | .str s => .ok s
    | _ => .error .shape
  flag
    | .bool b => .ok b
    | _ => .error .shape
  items
    | .arr items => .ok items
    | _ => .error .shape
  optional
    | .null => .ok none
    | j => .ok (some j)
  fields _ known := fields known
  unwrap _ j := .ok j
  tag := tag
  entries
    | .obj fs => .ok fs
    | _ => .error .shape
  reach := depth

end ScriptTyping.Json
