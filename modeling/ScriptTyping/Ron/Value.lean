import ScriptTyping.Datum.Basic

/-!
# RON documents

RON is a notation for structured data in which records and tags look like calls: `Name(field:
value)` or `Tag(payload)`.  A `Value` is a document as it stands in the text, before anyone asks what
it means.  The text alone does not tell a record from a tag, or a wrapper from a pair of parentheses;
that is decided by whoever reads the value.

A document may start by enabling `Extensions`, which let wrappers be left out when it is read.
-/

namespace ScriptTyping.Ron

/-- An identifier. A raw one is written after `r#` and never stands for one of the words that have a
meaning of their own, such as `true` and `None`. -/
structure Word where
  name : String
  raw : Bool := false
deriving DecidableEq

/-- Whether a word is the given word of the notation. -/
def Word.isKeyword (w : Word) (name : String) : Bool := !w.raw && w.name == name

/-- A document. -/
inductive Value where
  /-- A number, by its characters. -/
  | number (lexeme : String)
  | text (s : String)
  | char (c : Char)
  /-- An opening parenthesis directly before a closing one, without a name. -/
  | unit
  /-- A word that no parenthesis follows. -/
  | word (w : Word)
  | list (items : List Value)
  | map (entries : List (Value × Value))
  /-- Values in parentheses, after a name or without one. -/
  | tuple (name : Option Word) (items : List Value)
  /-- Fields in parentheses, after a name or without one. -/
  | record (name : Option Word) (fields : List (Word × Value))
  /-- A value that begins with a raw word, and `Some` before it without a blank between them. -/
  | attached (v : Value)

instance : Inhabited Value := ⟨.unit⟩

/-- What a document may leave out. -/
structure Extensions where
  /-- `Some` may be left out around a value that is there. -/
  implicitSome : Bool := false
  /-- Wrappers are left out. -/
  unwrapNewtypes : Bool := false
  /-- A record or wrapper that is the payload of a tag is left out around its contents. -/
  unwrapVariantNewtypes : Bool := false
deriving DecidableEq

/-- The extensions enabled in either of two places. -/
def Extensions.union (a b : Extensions) : Extensions where
  implicitSome := a.implicitSome || b.implicitSome
  unwrapNewtypes := a.unwrapNewtypes || b.unwrapNewtypes
  unwrapVariantNewtypes := a.unwrapVariantNewtypes || b.unwrapVariantNewtypes

/-- The extension of the given name. -/
def Extensions.ofName? (name : String) : Option Extensions :=
  if name = "implicit_some" then some { implicitSome := true }
  else if name = "unwrap_newtypes" then some { unwrapNewtypes := true }
  else if name = "unwrap_variant_newtypes" then some { unwrapVariantNewtypes := true }
  else none

mutual

/-- The document of a datum. Records and wrappers are written without their names. -/
def Value.ofDatum : Datum → Value
  | .number n => .number n.repr
  | .text s => .text s
  | .flag b => .word ⟨if b then "true" else "false", false⟩
  | .tag name => .word ⟨name, false⟩
  | .tagged name payload => .tuple (some ⟨name, false⟩) [Value.ofDatum payload]
  | .record _ fields =>
    if fields.isEmpty then .unit else .record none (Value.ofFields fields)
  | .wrapper _ inner => .tuple none [Value.ofDatum inner]
  | .list items => .list (Value.ofItems items)
  | .absent => .word ⟨"None", false⟩
  | .present inner => .tuple (some ⟨"Some", false⟩) [Value.ofDatum inner]
  | .table entries => .map (Value.ofEntries entries)

/-- The documents of the items of a list. -/
def Value.ofItems : List Datum → List Value
  | [] => []
  | d :: rest => Value.ofDatum d :: Value.ofItems rest

/-- The documents of the fields of a record. -/
def Value.ofFields : List (String × Datum) → List (Word × Value)
  | [] => []
  | (name, d) :: rest => (⟨name, false⟩, Value.ofDatum d) :: Value.ofFields rest

/-- The documents of the entries of a table. -/
def Value.ofEntries : List (String × Datum) → List (Value × Value)
  | [] => []
  | (key, d) :: rest => (.text key, Value.ofDatum d) :: Value.ofEntries rest

end

end ScriptTyping.Ron
