import ScriptTyping.Datum.Tree
import ScriptTyping.Diagnostic.Log

/-!
# Diagnostics as data

The descriptions of errors, violations, diagnostics and logs.  These are shown in outlines and have
no written form.
-/

namespace ScriptTyping

/-- A typing error in an outline. -/
def TypingError.shown : TypingError → Datum
  | unknownName n => .tagged "UnrecognizedName" n.shown
  | operands span lhs rhs =>
    .tagged "MismatchedOperands"
      (.record "MismatchedOperands"
        [("span", span.datum), ("lhs_ty", lhs.datum), ("rhs_ty", rhs.datum)])
  | assignment span n expected exprText actual =>
    .tagged "MismatchedAssignment"
      (.record "MismatchedAssignment"
        [("span", span.datum), ("name", n.shown), ("expected_ty", expected.datum),
          ("expr_text", .text exprText), ("actual_ty", actual.datum)])
  | condition span ty => .record "ConditionNotBool" [("span", span.datum), ("ty", ty.datum)]

/-- A violation in an outline. -/
def Violation.shown : Violation → Datum
  | operatorChain span count =>
    .record "OperatorChain" [("span", span.datum), ("op_count", .number count)]
  | initializerTarget declared target =>
    .record "InitializerTargetMismatch"
      [("decl_name", declared.shown), ("init_name", target.shown)]

/-- A cause in an outline. -/
def Cause.shown : Cause → Datum
  | .fault (.typing e) => e.shown
  | .fault (.violation v) => v.shown
  | .text s => .text s

/-- The tag of a level. -/
def Level.tagName : Level → String
  | fatal => "Fatal"
  | error => "Error"
  | warn => "Warn"
  | info => "Info"

/-- A message in an outline. -/
def Message.shown (m : Message) : Datum :=
  .record "DiagnosticMessage" [("span", describeOption Span.datum m.span), ("message", .text m.text)]

/-- A diagnostic in an outline. -/
def Diagnostic.shown (d : Diagnostic) : Datum :=
  .record "Diagnostic"
    [("level", .tag d.level.tagName), ("message", d.message.shown),
      ("source", describeOption Cause.shown d.cause)]

/-- A log in an outline. Of a listener it only tells that there is one. -/
def Log.shown (l : Log) : Datum :=
  .record "Diagnostics"
    [("diagnostics", .list (l.entries.map Diagnostic.shown)),
      ("emitter", if l.listeners = 0 then .absent else .present (.text ".."))]

end ScriptTyping
