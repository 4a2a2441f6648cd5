import ScriptTyping.Datum.Tree
import ScriptTyping.Reading.Source

/-!
# Reading trees

The readers of all parts of a program tree and of symbol tables, over any format.  A span, an end of
a span and an initializer may be left out; all other fields are required.

Expressions and statements nest, and each level of nesting opens one tag.  Their readers take the
number of tags they may open, which the entry points at the end take from the value itself, so that
it never runs out before the value does.
-/

namespace ScriptTyping

open Source

variable {V : Type} [Source V]

/-- Reads a position. -/
def readPosition (v : V) : Except ReadError Position := do
  let fields ← Source.fields "Position" ["line", "col"] v
  let line ← Source.natural (← required fields "line")
  let col ← Source.natural (← required fields "col")
  return ⟨line, col⟩

/-- Reads a span. An end that is left out is the origin. -/
def readSpan (v : V) : Except ReadError Span := do
  let fields ← Source.fields "Span" ["start", "end"] v
  let start ← orDefault fields "start" .origin readPosition
  let stop ← orDefault fields "end" .origin readPosition
  return ⟨start, stop⟩

/-- Reads the span among the fields of a node. -/
def readSpanField (fields : List (String × V)) : Except ReadError Span :=
  orDefault fields "span" .origin readSpan

/-- Reads a value with its place. -/
def readSpanned {α : Type} (read : V → Except ReadError α) (v : V) :
    Except ReadError (Spanned α) := do
  let fields ← Source.fields "Spanned" ["value", "span"] v
  let value ← read (← required fields "value")
  let span ← readSpanField fields
  return ⟨value, span⟩

/-- Reads one of several tags without payload. -/
def readTag {α : Type} (all : List α) (name : α → String) (v : V) : Except ReadError α := do
  match ← Source.tag v with
  | (tag, none) =>
    match all.find? (name · == tag) with
    | some a => return a
    | none => throw .shape
  | (_, some _) => throw .shape

/-- Reads a type that a declaration can name. -/
def readBaseTy (v : V) : Except ReadError BaseTy := readTag [.int, .string, .bool] BaseTy.tagName v

/-- Reads an operator. -/
def readOperator (v : V) : Except ReadError Operator := readTag Operator.all Operator.tagName v

/-- Reads a kind of binding. -/
def readBindingKind (v : V) : Except ReadError BindingKind :=
  readTag [.declared, .inferred] BindingKind.tagName v

/-- Reads a type. -/
def readTy (v : V) : Except ReadError Ty := do
  match ← Source.tag v with
  | ("Builtin", some payload) => return .base (← readBaseTy payload)
  | ("Untyped", none) => return .unknown
  | _ => throw .shape

/-- Reads a name. -/
def readName (v : V) : Except ReadError Name := do
  let s ← readSpanned Source.text (← Source.unwrap "Name" v)
  return ⟨s.value, s.span⟩

/-- Reads an integer literal. -/
def readIntLiteral (v : V) : Except ReadError (Spanned Int64) := do
  readSpanned Source.integer (← Source.unwrap "IntLit" v)

/-- Reads a string literal. -/
def readStringLiteral (v : V) : Except ReadError (Spanned String) := do
  readSpanned Source.text (← Source.unwrap "StringLit" v)

/-- Reads a literal truth value. -/
def readBoolLiteral (v : V) : Except ReadError (Spanned Bool) := do
  readSpanned Source.flag (← Source.unwrap "BoolLit" v)

/-- Reads a name or literal. -/
def readTerm (v : V) : Except ReadError Term := do
  match ← Source.tag v with
  | ("Name", some payload) => return .name (← readName payload)
  | ("Int", some payload) => return .int (← readIntLiteral payload)
  | ("String", some payload) => return .string (← readStringLiteral payload)
  | ("Bool", some payload) => return .bool (← readBoolLiteral payload)
  | _ => throw .shape

/-! ## Expressions -/

/-- Reads the fields of a binary node, its operands by `read`. -/
def readBinary (read : V → Except ReadError Expr) (v : V) : Except ReadError Expr := do
  let fields ← Source.fields "BinOpExpr" ["lhs", "ops", "rhs", "span"] v
  let lhs ← read (← required fields "lhs")
  let ops ← (← Source.items (← required fields "ops")).mapM (readSpanned readOperator)
  let rhs ← read (← required fields "rhs")
  let span ← readSpanField fields
  return .binary lhs ops rhs span

/-- Reads the fields of a parenthesised expression, what is inside by `read`. -/
def readParen (read : V → Except ReadError Expr) (v : V) : Except ReadError Expr := do
  let fields ← Source.fields "ParenExpr" ["expr", "span"] v
  let inner ← read (← required fields "expr")
  let span ← readSpanField fields
  return .paren inner span

/-- Reads an expression that opens at most the given number of tags. -/
def readExprWithin : Nat → V → Except ReadError Expr
  | 0, _ => throw .tooDeep
  | n + 1, v => do
    match ← Source.tag v with
    | ("Term", some payload) => return .term (← readTerm payload)
    | ("BinOp", some payload) => readBinary (readExprWithin n) payload
    | ("Paren", some payload) => readParen (readExprWithin n) payload
    | _ => throw .shape

/-- Reads an expression. -/
def readExpr (v : V) : Except ReadError Expr := readExprWithin (Source.reach v + 1) v

/-! ## Statements -/

/-- Reads an assignment. -/
def readAssignment (v : V) : Except ReadError Assignment := do
  let fields ← Source.fields "Assignment" ["name", "expr", "span"] v
  let name ← readName (← required fields "name")
  let expr ← readExpr (← required fields "expr")
  let span ← readSpanField fields
  return ⟨name, expr, span⟩

/-- Reads an initializer, which may be absent. -/
def readInit (v : V) : Except ReadError (Option Assignment) := do
  match ← Source.optional v with
  | none => return none
  | some payload => return some (← readAssignment payload)

/-- Reads a declaration. -/
def readDecl (v : V) : Except ReadError Decl := do
  let fields ← Source.fields "Decl" ["name", "ty", "init", "span"] v
  let name ← readName (← required fields "name")
  let ty ← readSpanned readBaseTy (← required fields "ty")
  let init ← orDefault fields "init" none readInit
  let span ← readSpanField fields
  return ⟨name, ty, init, span⟩

/-- Reads the fields of a conditional, the statements of its body by `read`. -/
def readIf (read : V → Except ReadError Stmt) (v : V) : Except ReadError Stmt := do
  let fields ← Source.fields "If" ["condition", "body", "span"] v
  let condition ← readExpr (← required fields "condition")
  let body ← (← Source.items (← required fields "body")).mapM read
  let span ← readSpanField fields
  return .ifThen condition body span

/-- Reads the fields of a print statement. -/
def readPrint (v : V) : Except ReadError Stmt := do
  let fields ← Source.fields "Print" ["expr", "span"] v
  let expr ← readExpr (← required fields "expr")
  let span ← readSpanField fields
  return .print expr span

/-- Reads a statement that opens at most the given number of tags. -/
def readStmtWithin : Nat → V → Except ReadError Stmt
  | 0, _ => throw .tooDeep
  | n + 1, v => do
    match ← Source.tag v with
    | ("Decl", some payload) => return .decl (← readDecl payload)
    | ("Assignment", some payload) => return .assign (← readAssignment payload)
    | ("If", some payload) => readIf (readStmtWithin n) payload
    | ("Print", some payload) => readPrint payload
    | _ => throw .shape

/-- Reads a statement. -/
def readStmt (v : V) : Except ReadError Stmt := readStmtWithin (Source.reach v + 1) v

/-- Reads a program. -/
def readProgram (v : V) : Except ReadError Program := do
  let fields ← Source.fields "Program" ["stmts", "span"] v
  let stmts ← (← Source.items (← required fields "stmts")).mapM readStmt
  let span ← readSpanField fields
  return ⟨stmts, span⟩

/-! ## Tables -/

/-- Reads a binding. -/
def readBinding (v : V) : Except ReadError Binding := do
  let fields ← Source.fields "Binding" ["ty", "kind", "location"] v
  let ty ← readTy (← required fields "ty")
  let kind ← readBindingKind (← required fields "kind")
  let location ← readSpan (← required fields "location")
  return ⟨ty, kind, location⟩

/-- Reads an entry of a table. -/
def readEntry (e : String × V) : Except ReadError (String × Binding) := do
  return (e.1, ← readBinding e.2)

/-- Reads a symbol table. A name that is given again keeps its place and takes the later binding. -/
def readSymbolTable (v : V) : Except ReadError SymbolTable := do
  return .ofList (← (← Source.entries v).mapM readEntry)

end ScriptTyping
