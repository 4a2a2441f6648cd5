import ScriptTyping.Datum.Basic

/-!
# JSON values

The values of JSON, and how data is put into them: a record or a table becomes an object, a tag its
name, a tag with a payload an object with one field, a wrapper just what it wraps, and an absent
value `null`.
-/

namespace ScriptTyping

/-- A JSON value. Objects keep the order of their fields. -/
inductive Json where
  | null
  | bool (b : Bool)
  | int (n : Int)
  /-- A number written with a fraction or an exponent, of which only the text is kept. -/
  | decimal (text : String)
  | str (s : String)
  | arr (items : List Json)
  | obj (fields : List (String × Json))

namespace Json

instance : Inhabited Json := ⟨null⟩

mutual

/-- The JSON value of a datum. -/
def ofDatum : Datum → Json
  | .number n => .int n
  | .text s => .str s
  | .flag b => .bool b
  | .tag name => .str name
  | .tagged name payload => .obj [(name, ofDatum payload)]
  | .record _ fields => .obj (ofFields fields)
  | .wrapper _ inner => ofDatum inner
  | .list items => .arr (ofItems items)
  | .absent => .null
  | .present inner => ofDatum inner
  | .table entries => .obj (ofFields entries)

/-- The JSON values of the items of a list. -/
def ofItems : List Datum → List Json
  | [] => []
  | d :: rest => ofDatum d :: ofItems rest

/-- The JSON fields of the fields of a record. -/
def ofFields : List (String × Datum) → List (String × Json)
  | [] => []
  | (name, d) :: rest => (name, ofDatum d) :: ofFields rest

end

mutual

/-- How deep lists and objects are nested in a value. -/
def depth : Json → Nat
  | .arr items => depthItems items + 1
  | .obj fields => depthFields fields + 1
  | _ => 0

/-- The greatest depth among items. -/
def depthItems : List Json → Nat
  | [] => 0
  | j :: rest => max (depth j) (depthItems rest)

/-- The greatest depth among the values of fields. -/
def depthFields : List (String × Json) → Nat
  | [] => 0
  | (_, j) :: rest => max (depth j) (depthFields rest)

end

end Json

end ScriptTyping
