/-!
# Types of the language

A variable holds an integer, a string or a truth value.  An expression with an error inside has
no type of its own: it gets the sentinel `Ty.unknown`, which agrees with every type, so that one
mistake is reported once and not again by each expression around it.
-/

namespace ScriptTyping

/-- A type that a declaration can name. -/
inductive BaseTy where
  | int
  | string
  | bool
deriving DecidableEq

namespace BaseTy

/-- The keyword of the type in source code. -/
def keyword : BaseTy → String
  | int => "int"
  | string => "string"
  | bool => "bool"

end BaseTy

/-- The type found for an expression or recorded for a variable. -/
inductive Ty where
  | base (b : BaseTy)
  | unknown
deriving DecidableEq

namespace Ty

/-- The known type, if there is one. -/
def base? : Ty → Option BaseTy
  | base b => some b
  | unknown => none

/-- Two types agree unless both are known and they differ. -/
def agrees : Ty → Ty → Bool
  | base a, base b => a == b
  | _, _ => true

/-- How messages name a type. -/
def text : Ty → String
  | base b => b.keyword
  | unknown => "\x7binvalid\x7d"

end Ty

end ScriptTyping
