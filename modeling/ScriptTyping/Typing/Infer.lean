import ScriptTyping.Symbols
import ScriptTyping.Typing.Check

/-!
# The type of an expression

`Expr.typeOf` finds the type of an expression under a symbol table.  It reads the table and never
changes it: using a name that is not bound is reported at each use and binds nothing.

An expression that contains a fault gets the type `Ty.unknown`, and the fault is reported at the
innermost node that shows it.  A comparison is the exception: it is a truth value even if one of
its operands is unknown.
-/

namespace ScriptTyping

/-- The type of an occurrence of a name: the one in the table, or a report. -/
def Name.typeOf (t : SymbolTable) (n : Name) : Check Ty :=
  match t.lookup n.text with
  | some ty => pure ty
  | none => do
    Check.report (.unknownName n)
    return .unknown

/-- The type of a name or literal. -/
def Term.typeOf (t : SymbolTable) : Term → Check Ty
  | .name n => n.typeOf t
  | .int _ => pure (.base .int)
  | .string _ => pure (.base .string)
  | .bool _ => pure (.base .bool)

/-- The type of a binary node with the given operator and operand types. Operands of two different
known types are reported. -/
def Operator.typeOf (span : Span) (op : Operator) : Ty → Ty → Check Ty
  | .base a, .base b =>
    if a = b then pure (if op.isComparison then .base .bool else .base a)
    else do
      Check.report (.operands span a b)
      return .unknown
  | _, _ => pure (if op.isComparison then .base .bool else .unknown)

/-- The type of an expression under a table. The number of operators of a binary node is looked at
before its operands are. -/
def Expr.typeOf (t : SymbolTable) : Expr → Check Ty
  | .term tm => do
    let ty ← tm.typeOf t
    Check.trace (.typed (.term tm) ty)
    return ty
  | .paren inner span => do
    let ty ← inner.typeOf t
    Check.trace (.typed (.paren inner span) ty)
    return ty
  | .binary lhs ops rhs span =>
    match singleOperator? ops with
    | none => Check.violate (.operatorChain span ops.length)
    | some op => do
      let l ← lhs.typeOf t
      let r ← rhs.typeOf t
      let ty ← op.typeOf span l r
      Check.trace (.typed (.binary lhs ops rhs span) ty)
      return ty

end ScriptTyping
