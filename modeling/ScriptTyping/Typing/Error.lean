import ScriptTyping.Tree.Program

/-!
# What can be wrong with a program

There are two kinds of fault.  A `TypingError` is a mistake of the programmer: it is reported and
checking goes on.  A `Violation` is a node for which there is no typing rule at all, the mistake of
whatever produced the tree: it ends the run.

Both are data.  Their wording is in `TypingError.message` and `Violation.message` alone.
-/

namespace ScriptTyping

/-- A recoverable fault of a program. -/
inductive TypingError where
  /-- A name is used that nothing before it establishes. -/
  | unknownName (name : Name)
  /-- The operands of a binary node have different known types. -/
  | operands (span : Span) (lhs rhs : BaseTy)
  /-- A variable of one known type is assigned an expression of another. -/
  | assignment (span : Span) (name : Name) (expected : BaseTy) (exprText : String)
      (actual : BaseTy)
  /-- A condition does not have type bool. -/
  | condition (span : Span) (ty : Ty)
deriving DecidableEq

namespace TypingError

/-- The place the error is attributed to. -/
def span : TypingError → Span
  | unknownName n => n.span
  | operands s _ _ => s
  | assignment s _ _ _ _ => s
  | condition s _ => s

/-- The end of every message: the line on which the span of the error starts. -/
def atLine (s : Span) : String := " at line " ++ s.line.toNat.repr

/-- The text of the error. -/
def message : TypingError → String
  | unknownName n => "Unknown identifier: " ++ n.text ++ atLine n.span
  | operands s lhs rhs => "Type mismatch: " ++ lhs.keyword ++ " and " ++ rhs.keyword ++ atLine s
  | assignment s n expected exprText actual =>
    "Type mismatch in " ++ n.text ++ " (" ++ expected.keyword ++ ") = " ++ exprText ++ " ("
      ++ actual.keyword ++ ")" ++ atLine s
  | condition s ty => "Condition must be bool, found " ++ ty.text ++ atLine s

end TypingError

/-- A node that has no typing rule. -/
inductive Violation where
  /-- A binary node with other than one operator between its operands. -/
  | operatorChain (span : Span) (count : Nat)
  /-- A declaration whose initializer assigns to another variable. -/
  | initializerTarget (declared : Name) (target : Name)
deriving DecidableEq

namespace Violation

/-- The place of the offending node, or of the offending target. -/
def span : Violation → Span
  | operatorChain s _ => s
  | initializerTarget _ target => target.span

/-- The text of the violation. A wrong target is told by the line of the declared name. -/
def message : Violation → String
  | operatorChain s count =>
    "malformed tree: binary expression at line " ++ s.line.toNat.repr ++ " has " ++ count.repr
      ++ " operators, expected exactly 1"
  | initializerTarget declared target =>
    "malformed tree: declaration of `" ++ declared.text ++ "` at line "
      ++ declared.span.line.toNat.repr ++ " is initialized by an assignment to `" ++ target.text
      ++ "`"

end Violation

end ScriptTyping
