import ScriptTyping.Span

/-!
# Expressions

An expression is a name, a literal, an operator application or a parenthesised expression.  A
binary node holds the list of operator tokens found between its operands.  A well-formed node has
exactly one; a tree handed over by a faulty front end may have none or several, and the checker
has to notice.
-/

namespace ScriptTyping

/-- A binary operator. -/
inductive Operator where
  | add
  | subtract
  | multiply
  | divide
  | equals
  | notEquals
  | lessThan
  | greaterThan
  | lessEquals
  | greaterEquals
deriving DecidableEq

namespace Operator

/-- All operators, in the order of their declaration. -/
def all : List Operator :=
  [add, subtract, multiply, divide, equals, notEquals, lessThan, greaterThan, lessEquals,
    greaterEquals]

/-- The token of the operator in source code. -/
def symbol : Operator → String
  | add => "+"
  | subtract => "-"
  | multiply => "*"
  | divide => "/"
  | equals => "=="
  | notEquals => "!="
  | lessThan => "<"
  | greaterThan => ">"
  | lessEquals => "<="
  | greaterEquals => ">="

/-- The operator with the given token. -/
def ofSymbol? (s : String) : Option Operator :=
  all.find? (·.symbol == s)

/-- Whether the result of the operator is a truth value, whatever its operands are. -/
def isComparison : Operator → Bool
  | equals | notEquals | lessThan | greaterThan | lessEquals | greaterEquals => true
  | add | subtract | multiply | divide => false

end Operator

/-- An occurrence of a variable name. Two occurrences name the same variable if the texts agree. -/
structure Name where
  text : String
  span : Span
deriving DecidableEq

/-- An expression without parts: a variable or a literal. -/
inductive Term where
  | name (n : Name)
  | int (literal : Spanned Int64)
  | string (literal : Spanned String)
  | bool (literal : Spanned Bool)
deriving DecidableEq

/-- An expression. -/
inductive Expr where
  | term (t : Term)
  | binary (lhs : Expr) (ops : List (Spanned Operator)) (rhs : Expr) (span : Span)
  | paren (inner : Expr) (span : Span)
deriving DecidableEq

/-- The place of a name or literal. -/
def Term.span : Term → Span
  | name n => n.span
  | int l => l.span
  | string l => l.span
  | bool l => l.span

/-- The place of an expression as a whole. -/
def Expr.span : Expr → Span
  | term t => t.span
  | binary _ _ _ s => s
  | paren _ s => s

/-- The operator of a binary node, if the node has exactly one. -/
def singleOperator? : List (Spanned Operator) → Option Operator
  | [op] => some op.value
  | _ => none

/-! ## Source text

The text of an expression is the run of its tokens, with nothing between them. -/

/-- A quote or a backslash inside a string literal is preceded by a backslash; all else stands as
it is. -/
def escapeLiteral : List Char → List Char
  | [] => []
  | c :: rest =>
    if c = '"' ∨ c = '\\' then '\\' :: c :: escapeLiteral rest else c :: escapeLiteral rest

/-- The text of a string literal, quotes included. -/
def literalText (s : String) : String :=
  String.ofList ('"' :: escapeLiteral s.toList ++ ['"'])

/-- The source text of a name or literal. -/
def Term.text : Term → String
  | name n => n.text
  | int l => l.value.toInt.repr
  | string l => literalText l.value
  | bool l => if l.value then "true" else "false"

/-- The source text of an expression. -/
def Expr.text : Expr → String
  | term t => t.text
  | binary lhs ops rhs _ => lhs.text ++ String.join (ops.map (·.value.symbol)) ++ rhs.text
  | paren inner _ => "(" ++ inner.text ++ ")"

end ScriptTyping
