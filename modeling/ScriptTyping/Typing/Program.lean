import ScriptTyping.Typing.Infer

/-!
# Checking statements and programs

Statements are checked in order, each from the table that the ones before it left, and each yields
the table for the ones after it.  `Stmt.checkAll` starts from any table; `Program.check` starts from
the empty one and marks the beginning and the end of the run in the trace.

* A declaration binds its name unless the name is bound, and then checks its initializer.
* An assignment types its expression first.  If the target is bound, the types have to agree; if
  not, the target is bound with the type found, `Ty.unknown` included, which keeps later uses of the
  name quiet.
* A conditional types its condition and then checks its body, which shares the table.
* A print statement types its expression.
-/

namespace ScriptTyping

/-- What a run may be asked to insist on. -/
structure Options where
  /-- Report conditions whose type is known and is not bool. -/
  strictConditions : Bool := false
deriving DecidableEq

/-- Checks the target of an assignment against the type found for its expression. -/
def Assignment.settle (a : Assignment) (t : SymbolTable) (ty : Ty) : Check SymbolTable :=
  match t.lookup a.name.text, ty with
  | some (.base expected), .base actual =>
    if expected = actual then pure t
    else do
      Check.report (.assignment a.span a.name expected a.expr.text actual)
      return t
  | some _, _ => pure t
  | none, ty => do
    Check.trace (.adopted a.name.text ty)
    return t.bind a.name.text ⟨ty, .inferred, a.span⟩

/-- Checks an assignment, whether a statement or an initializer. -/
def Assignment.check (a : Assignment) (t : SymbolTable) : Check SymbolTable := do
  let ty ← a.expr.typeOf t
  a.settle t ty

/-- The binding that a declaration asks for. -/
def Decl.binding (d : Decl) : Binding := ⟨.base d.ty.value, .declared, d.span⟩

/-- Marks in the trace that a declaration found its name bound with another type. -/
def Decl.noteRedeclaration (d : Decl) (inEffect : Ty) : Check Unit :=
  if inEffect = .base d.ty.value then pure ()
  else Check.trace (.redeclared d.name.text inEffect d.ty.value)

/-- Checks the initializer of a declaration, if there is one. It has to assign to the declared
name. -/
def Decl.checkInit (d : Decl) (t : SymbolTable) : Check SymbolTable :=
  match d.init with
  | none => pure t
  | some a =>
    if a.name.text = d.name.text then a.check t
    else Check.violate (.initializerTarget d.name a.name)

/-- Checks a declaration. -/
def Decl.check (d : Decl) (t : SymbolTable) : Check SymbolTable := do
  d.noteRedeclaration (t.bound d.name.text d.binding).ty
  d.checkInit (t.bind d.name.text d.binding)

/-- Reports a condition of a known type other than bool, if the options ask for it. -/
def Options.checkCondition (o : Options) (condition : Expr) (ty : Ty) : Check Unit :=
  if o.strictConditions && !ty.agrees (.base .bool) then
    Check.report (.condition condition.span ty)
  else pure ()

mutual

/-- Checks a statement from a table and yields the table after it. -/
def Stmt.check (o : Options) : Stmt → SymbolTable → Check SymbolTable
  | .decl d, t => d.check t
  | .assign a, t => a.check t
  | .ifThen condition body _, t => do
    let ty ← condition.typeOf t
    o.checkCondition condition ty
    Stmt.checkAll o body t
  | .print e _, t => do
    let _ ← e.typeOf t
    return t

/-- Checks statements one after another. -/
def Stmt.checkAll (o : Options) : List Stmt → SymbolTable → Check SymbolTable
  | [], t => pure t
  | s :: rest, t => do
    let u ← Stmt.check o s t
    Stmt.checkAll o rest u

end

/-- Checks a program from the empty table. -/
def Program.check (o : Options) (p : Program) : Check SymbolTable := do
  Check.trace (.started p.stmts.length)
  let t ← Stmt.checkAll o p.stmts .empty
  Check.trace (.finished t.size)
  return t

end ScriptTyping
