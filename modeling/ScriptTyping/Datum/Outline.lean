import ScriptTyping.Datum.Basic
import ScriptTyping.Text.Quoted

/-!
# Outlines

An outline shows the structure of a value to a human reader: records and wrappers by name, fields by
name, texts in quotes.  `Datum.outline` is the outline on one line; `Datum.tallOutline` puts each
part on a line of its own, indented by four blanks for each level and followed by a comma.
-/

namespace ScriptTyping.Datum

mutual

/-- The outline of a value on one line. -/
def outline : Datum → String
  | .number n => n.repr
  | .text s => Text.quoted s
  | .flag b => if b then "true" else "false"
  | .tag name => name
  | .tagged name payload => name ++ "(" ++ outline payload ++ ")"
  | .record name fields => name ++ " \x7b " ++ ", ".intercalate (outlineFields fields) ++ " \x7d"
  | .wrapper name inner => name ++ "(" ++ outline inner ++ ")"
  | .list items => "[" ++ ", ".intercalate (outlineItems items) ++ "]"
  | .absent => "None"
  | .present inner => "Some(" ++ outline inner ++ ")"
  | .table entries => "\x7b" ++ ", ".intercalate (outlineEntries entries) ++ "\x7d"

/-- The outlines of the items of a list. -/
def outlineItems : List Datum → List String
  | [] => []
  | d :: rest => outline d :: outlineItems rest

/-- The outlines of the fields of a record. -/
def outlineFields : List (String × Datum) → List String
  | [] => []
  | (name, d) :: rest => (name ++ ": " ++ outline d) :: outlineFields rest

/-- The outlines of the entries of a table. -/
def outlineEntries : List (String × Datum) → List String
  | [] => []
  | (key, d) :: rest => (Text.quoted key ++ ": " ++ outline d) :: outlineEntries rest

end

/-- The blanks before a line at the given level. -/
def indent (level : Nat) : String := String.ofList (List.replicate (4 * level) ' ')

/-- Parts between an opening and a closing text, each on a line of its own. Without parts the two
stand next to each other. -/
def tallGroup (level : Nat) (opening : String) (parts : List String) (closing : String) : String :=
  if parts.isEmpty then opening ++ closing
  else
    opening ++ "\n" ++ String.join (parts.map fun p => indent (level + 1) ++ p ++ ",\n")
      ++ indent level ++ closing

mutual

/-- The outline of a value over several lines. `level` is the level of the line it starts on. -/
def tallOutline (level : Nat) : Datum → String
  | .number n => n.repr
  | .text s => Text.quoted s
  | .flag b => if b then "true" else "false"
  | .tag name => name
  | .tagged name payload => tallGroup level (name ++ "(") [tallOutline (level + 1) payload] ")"
  | .record name fields => tallGroup level (name ++ " \x7b") (tallFields (level + 1) fields) "\x7d"
  | .wrapper name inner => tallGroup level (name ++ "(") [tallOutline (level + 1) inner] ")"
  | .list items => tallGroup level "[" (tallItems (level + 1) items) "]"
  | .absent => "None"
  | .present inner => tallGroup level "Some(" [tallOutline (level + 1) inner] ")"
  | .table entries => tallGroup level "\x7b" (tallEntries (level + 1) entries) "\x7d"

/-- The tall outlines of the items of a list. -/
def tallItems (level : Nat) : List Datum → List String
  | [] => []
  | d :: rest => tallOutline level d :: tallItems level rest

/-- The tall outlines of the fields of a record. -/
def tallFields (level : Nat) : List (String × Datum) → List String
  | [] => []
  | (name, d) :: rest => (name ++ ": " ++ tallOutline level d) :: tallFields level rest

/-- The tall outlines of the entries of a table. -/
def tallEntries (level : Nat) : List (String × Datum) → List String
  | [] => []
  | (key, d) :: rest =>
    (Text.quoted key ++ ": " ++ tallOutline level d) :: tallEntries level rest

end

end ScriptTyping.Datum
