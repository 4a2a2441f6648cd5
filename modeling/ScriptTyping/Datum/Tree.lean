import ScriptTyping.Datum.Basic
import ScriptTyping.Symbols
import ScriptTyping.Tree.Program

/-!
# Trees and tables as data

The description of every part of a program tree and of a symbol table as a `Datum`.

Written formats and outlines differ in one place.  A name is written as a wrapper around a text with
a span, but an outline shows it as a record of its own.  The descriptions of trees therefore take
the description of names as an argument: `datum` is the written form and `shown` the one for
outlines.
-/

namespace ScriptTyping

/-- A position is a record of line and column. -/
def Position.datum (p : Position) : Datum :=
  .record "Position" [("line", .number p.line.toNat), ("col", .number p.col.toNat)]

/-- A span is a record of its two ends. -/
def Span.datum (s : Span) : Datum :=
  .record "Span" [("start", s.start.datum), ("end", s.stop.datum)]

/-- A value with its place is a record of the two. -/
def Spanned.describe {α : Type} (value : α → Datum) (s : Spanned α) : Datum :=
  .record "Spanned" [("value", value s.value), ("span", s.span.datum)]

/-- The tag of a type that a declaration can name. -/
def BaseTy.tagName : BaseTy → String
  | int => "Int"
  | string => "String"
  | bool => "Bool"

/-- A type that a declaration can name is a tag. -/
def BaseTy.datum (b : BaseTy) : Datum := .tag b.tagName

/-- A known type is a payload; the unknown one is a tag of its own. -/
def Ty.datum : Ty → Datum
  | base b => .tagged "Builtin" b.datum
  | unknown => .tag "Untyped"

/-- The tag of an operator. -/
def Operator.tagName : Operator → String
  | add => "Add"
  | subtract => "Subtract"
  | multiply => "Multiply"
  | divide => "Divide"
  | equals => "Equals"
  | notEquals => "NotEquals"
  | lessThan => "LessThan"
  | greaterThan => "GreaterThan"
  | lessEquals => "LessEquals"
  | greaterEquals => "GreaterEquals"

/-- An operator is a tag. -/
def Operator.datum (op : Operator) : Datum := .tag op.tagName

/-- The written form of a name: a wrapper around a text with its place. -/
def Name.datum (n : Name) : Datum :=
  .wrapper "Name" (Spanned.describe .text ⟨n.text, n.span⟩)

/-- A name in an outline: a record of place and text. -/
def Name.shown (n : Name) : Datum :=
  .record "Name" [("span", n.span.datum), ("value", .text n.text)]

/-- A literal is a wrapper around a value with its place. -/
def Spanned.literal {α : Type} (wrapper : String) (value : α → Datum) (s : Spanned α) : Datum :=
  .wrapper wrapper (s.describe value)

/-- The wrapper of an integer literal. -/
def intLiteral (l : Spanned Int64) : Datum := l.literal "IntLit" fun n => .number n.toInt

/-- The wrapper of a string literal. -/
def stringLiteral (l : Spanned String) : Datum := l.literal "StringLit" .text

/-- The wrapper of a literal truth value. -/
def boolLiteral (l : Spanned Bool) : Datum := l.literal "BoolLit" .flag

/-! ## Trees -/

/-- The description of a name or literal. -/
def Term.describe (name : Name → Datum) : Term → Datum
  | .name n => .tagged "Name" (name n)
  | .int l => .tagged "Int" (intLiteral l)
  | .string l => .tagged "String" (stringLiteral l)
  | .bool l => .tagged "Bool" (boolLiteral l)

/-- The fields of a binary node, from the descriptions of its operands. -/
def binaryRecord (lhs : Datum) (ops : List (Spanned Operator)) (rhs : Datum) (span : Span) :
    Datum :=
  .record "BinOpExpr"
    [("lhs", lhs), ("ops", .list (ops.map (·.describe Operator.datum))), ("rhs", rhs),
      ("span", span.datum)]

/-- The fields of a parenthesised expression, from the description of what is inside. -/
def parenRecord (inner : Datum) (span : Span) : Datum :=
  .record "ParenExpr" [("expr", inner), ("span", span.datum)]

/-- The description of an expression. -/
def Expr.describe (name : Name → Datum) : Expr → Datum
  | .term t => .tagged "Term" (t.describe name)
  | .binary lhs ops rhs span =>
    .tagged "BinOp" (binaryRecord (lhs.describe name) ops (rhs.describe name) span)
  | .paren inner span => .tagged "Paren" (parenRecord (inner.describe name) span)

/-- The description of an assignment. -/
def Assignment.describe (name : Name → Datum) (a : Assignment) : Datum :=
  .record "Assignment"
    [("name", name a.name), ("expr", a.expr.describe name), ("span", a.span.datum)]

/-- The description of an optional value. -/
def describeOption {α : Type} (describe : α → Datum) : Option α → Datum
  | none => .absent
  | some a => .present (describe a)

/-- The description of a declaration. -/
def Decl.describe (name : Name → Datum) (d : Decl) : Datum :=
  .record "Decl"
    [("name", name d.name), ("ty", d.ty.describe BaseTy.datum),
      ("init", describeOption (Assignment.describe name) d.init), ("span", d.span.datum)]

/-- The fields of a conditional, from the descriptions of its parts. -/
def ifRecord (condition : Datum) (body : List Datum) (span : Span) : Datum :=
  .record "If" [("condition", condition), ("body", .list body), ("span", span.datum)]

/-- The fields of a print statement, from the description of its expression. -/
def printRecord (expr : Datum) (span : Span) : Datum :=
  .record "Print" [("expr", expr), ("span", span.datum)]

mutual

/-- The description of a statement. -/
def Stmt.describe (name : Name → Datum) : Stmt → Datum
  | .decl d => .tagged "Decl" (d.describe name)
  | .assign a => .tagged "Assignment" (a.describe name)
  | .ifThen condition body span =>
    .tagged "If" (ifRecord (condition.describe name) (Stmt.describeAll name body) span)
  | .print e span => .tagged "Print" (printRecord (e.describe name) span)

/-- The descriptions of statements. -/
def Stmt.describeAll (name : Name → Datum) : List Stmt → List Datum
  | [] => []
  | s :: rest => Stmt.describe name s :: Stmt.describeAll name rest

end

/-- The description of a program. -/
def Program.describe (name : Name → Datum) (p : Program) : Datum :=
  .record "Program" [("stmts", .list (Stmt.describeAll name p.stmts)), ("span", p.span.datum)]

/-- The written form of an expression. -/
def Expr.datum : Expr → Datum := Expr.describe Name.datum

/-- The written form of a statement. -/
def Stmt.datum : Stmt → Datum := Stmt.describe Name.datum

/-- The written form of a program. -/
def Program.datum : Program → Datum := Program.describe Name.datum

/-! ## Tables -/

/-- The tag of a kind of binding. -/
def BindingKind.tagName : BindingKind → String
  | declared => "Declared"
  | inferred => "Inferred"

/-- A binding is a record. -/
def Binding.datum (b : Binding) : Datum :=
  .record "Binding"
    [("ty", b.ty.datum), ("kind", .tag b.kind.tagName), ("location", b.location.datum)]

/-- The written form of a table is the bare table. -/
def SymbolTable.datum (t : SymbolTable) : Datum :=
  .table (t.entries.map fun e => (e.1, e.2.datum))

/-- A table in an outline: a record that holds the table. -/
def SymbolTable.shown (t : SymbolTable) : Datum :=
  .record "SymbolTable" [("bindings", t.datum)]

end ScriptTyping
