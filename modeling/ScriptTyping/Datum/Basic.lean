/-!
# The shape of a value

Trees, tables and diagnostics are written in several formats, and all of the formats see a value in
the same way: it is a number, a text, a flag, a record with named fields, a tag with or without a
payload, a list, and so on.  `Datum` is that common view.  Each format is a function on it, and each
type of the library is described by it once.
-/

namespace ScriptTyping

/-- A value as the written formats see it. -/
inductive Datum where
  | number (n : Int)
  | text (s : String)
  | flag (b : Bool)
  /-- An alternative without a payload. -/
  | tag (name : String)
  /-- An alternative with a payload. -/
  | tagged (name : String) (payload : Datum)
  /-- A value with named fields. -/
  | record (name : String) (fields : List (String × Datum))
  /-- A named type around a single value. -/
  | wrapper (name : String) (inner : Datum)
  | list (items : List Datum)
  /-- An optional value that is not there. -/
  | absent
  /-- An optional value that is there. -/
  | present (inner : Datum)
  /-- A table from texts to values, in order. -/
  | table (entries : List (String × Datum))

instance : Inhabited Datum := ⟨.absent⟩

end ScriptTyping
