import ScriptTyping.Span
import ScriptTyping.Ty

/-!
# The symbol table

The language has no scopes, so one flat table records every variable.  Entries are never removed,
the first binding of a name is the one that stays, and the order of the table is the order in which
names were first bound.

`SymbolTable.entries` is the view through which the other operations are described: `bind` appends
to it or leaves it alone, `find?` looks a name up in it.  No name occurs in it twice, which is part
of the type.
-/

namespace ScriptTyping

/-- How a name came to be in the table. -/
inductive BindingKind where
  /-- Introduced by a declaration. -/
  | declared
  /-- Adopted from the first assignment to a name that no declaration had introduced. -/
  | inferred
deriving DecidableEq

/-- What the table knows about a variable. -/
structure Binding where
  /-- `Ty.unknown` if the first assignment to the name had an ill-typed expression. -/
  ty : Ty
  kind : BindingKind
  location : Span
deriving DecidableEq

/-- The variables of a program in the order of their first binding. -/
@[ext]
structure SymbolTable where
  entries : List (String × Binding)
  nodup : (entries.map Prod.fst).Nodup

namespace SymbolTable

/-- The table with no variables. -/
def empty : SymbolTable := ⟨[], List.nodup_nil⟩

instance : Inhabited SymbolTable := ⟨empty⟩

/-- The bound names in table order. -/
def names (t : SymbolTable) : List String := t.entries.map Prod.fst

/-- The binding of a name. -/
def find? (t : SymbolTable) (name : String) : Option Binding := t.entries.lookup name

/-- The type recorded for a name, `Ty.unknown` included. -/
def lookup (t : SymbolTable) (name : String) : Option Ty := (t.find? name).map (·.ty)

/-- The type of a name, if it is bound to a known one. -/
def get? (t : SymbolTable) (name : String) : Option BaseTy := (t.lookup name).bind Ty.base?

/-- The number of bound names, those of unknown type included. -/
def size (t : SymbolTable) : Nat := t.entries.length

/-- Whether nothing is bound. -/
def isEmpty (t : SymbolTable) : Bool := t.entries.isEmpty

private theorem nodup_append_new {es : List (String × Binding)} {name : String} {b : Binding}
    (h : (es.map Prod.fst).Nodup) (hn : name ∉ es.map Prod.fst) :
    ((es ++ [(name, b)]).map Prod.fst).Nodup := by
  rw [List.map_append, List.nodup_append]
  refine ⟨h, by simp, ?_⟩
  intro x hx y hy hxy
  simp only [List.map_cons, List.map_nil, List.mem_singleton] at hy
  exact hn (hy ▸ hxy ▸ hx)

/-- Binds a name unless it is bound already. -/
def bind (t : SymbolTable) (name : String) (b : Binding) : SymbolTable :=
  if h : name ∈ t.entries.map Prod.fst then t
  else ⟨t.entries ++ [(name, b)], nodup_append_new t.nodup h⟩

/-- The binding of `name` after `t.bind name b`: the one there was, or else `b`. -/
def bound (t : SymbolTable) (name : String) (b : Binding) : Binding := (t.find? name).getD b

private theorem map_fst_replace (es : List (String × Binding)) (name : String) (b : Binding) :
    (es.map fun e => if e.1 = name then (e.1, b) else e).map Prod.fst = es.map Prod.fst := by
  rw [List.map_map]
  refine List.map_congr_left fun e _ => ?_
  by_cases h : e.1 = name <;> simp [h]

/-- Gives a name a binding whether or not it has one; a name that is bound keeps its place. -/
def put (t : SymbolTable) (name : String) (b : Binding) : SymbolTable :=
  if h : name ∈ t.entries.map Prod.fst then
    ⟨t.entries.map fun e => if e.1 = name then (e.1, b) else e,
      by rw [map_fst_replace]; exact t.nodup⟩
  else ⟨t.entries ++ [(name, b)], nodup_append_new t.nodup h⟩

/-- The table with the given entries put in one after another. -/
def ofList (es : List (String × Binding)) : SymbolTable :=
  es.foldl (fun t e => t.put e.1 e.2) empty

/-- The names of known type, with their types, in table order. -/
def typed (t : SymbolTable) : List (String × BaseTy) :=
  t.entries.filterMap fun e => e.2.ty.base?.map (e.1, ·)

/-- Whether two tables bind the same names to the same bindings, in whatever order. -/
def sameBindings (t u : SymbolTable) : Bool :=
  t.size == u.size && t.entries.all fun e => u.find? e.1 == some e.2

/-- One line for each name of known type: the name, a colon and the type. -/
def text (t : SymbolTable) : String :=
  String.join (t.typed.map fun e => e.1 ++ ": " ++ e.2.keyword ++ "\n")

end SymbolTable

end ScriptTyping
