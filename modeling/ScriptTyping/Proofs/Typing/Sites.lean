import Mathlib.Data.List.NodupEquivFin
import ScriptTyping.Proofs.Typing.Rules

/-!
# Where a run can report

Each kind of error belongs to one kind of node: a name can be unknown, the operands of a binary node
can differ, an assignment can be at odds with its target, a condition can be something else than a
truth value.  So the places where a run can report are fixed by the program.  `Program.sites` lists
them in the order of the traversal.  A node stands in it after its parts, since it is judged by what
was found for them, and a condition stands before the body it guards.

A run goes along this list and reports at some of the sites.  `Check.ReportsAt` says so of a part of
a run, and `Check.ReportsAt.bind` puts parts together: the sites of a sequence are those of its
first half followed by those of its second half, whether or not the second half is reached.
-/

namespace ScriptTyping

/-! ## Sites -/

/-- The kinds of errors. -/
inductive ErrorKind where
  | unknownName
  | operands
  | assignment
  | condition
deriving DecidableEq

/-- A place where an error of some kind can be reported. -/
structure Site where
  kind : ErrorKind
  span : Span
deriving DecidableEq

def TypingError.kind : TypingError → ErrorKind
  | unknownName _ => .unknownName
  | operands _ _ _ => .operands
  | assignment _ _ _ _ _ => .assignment
  | condition _ _ => .condition

/-- The site that an error is reported at. -/
def TypingError.site (e : TypingError) : Site := ⟨e.kind, e.span⟩

/-- The sites of an expression, each node after its operands. -/
def Expr.sites : Expr → List Site
  | .term (.name n) => [⟨.unknownName, n.span⟩]
  | .term _ => []
  | .binary lhs _ rhs span => lhs.sites ++ rhs.sites ++ [⟨.operands, span⟩]
  | .paren inner _ => inner.sites

/-- The sites of a visit, its own after those of its expression. -/
def Visit.sites : Visit → List Site
  | declare _ => []
  | initializer _ a | assign a => a.expr.sites ++ [⟨.assignment, a.span⟩]
  | condition e => e.sites ++ [⟨.condition, e.span⟩]
  | print e => e.sites

/-- The sites of a program in the order of its traversal. -/
def Program.sites (p : Program) : List Site := p.visits.flatMap Visit.sites

/-! ## Reporting along sites -/

namespace Check

variable {α β : Type} {c : Check α} {f : α → Check β} {sites sites' : List Site}

/-- The errors that a computation reports are at some of the sites, in their order. -/
def ReportsAt (sites : List Site) (c : Check α) : Prop :=
  (c.errors.map TypingError.site).Sublist sites

lemma reportsAt_of_silent (h : c.errors = []) : c.ReportsAt sites := by
  rw [ReportsAt, h]
  exact List.nil_sublist sites

lemma reportsAt_report (e : TypingError) (a : α) :
    (report e >>= fun _ => pure a).ReportsAt [e.site] :=
  List.Sublist.refl [e.site]

/-- A sequence reports at the sites of its first half and then at those of its second half. -/
lemma ReportsAt.bind (hc : c.ReportsAt sites) (hf : ∀ a, (f a).ReportsAt sites') :
    (c >>= f).ReportsAt (sites ++ sites') := by
  cases h : c.result with
  | error v =>
      -- The run has ended, and the remaining sites are passed over.
      rw [ReportsAt, errors_bind_of_error h]
      exact hc.trans (List.sublist_append_left sites sites')
  | ok a =>
      rw [ReportsAt, errors_bind_of_ok h, List.map_append]
      exact hc.append (hf a)

lemma ReportsAt.bind_silent (hc : c.ReportsAt sites) (hf : ∀ a, (f a).errors = []) :
    (c >>= f).ReportsAt sites := by
  rw [← List.append_nil sites]
  exact hc.bind fun a => reportsAt_of_silent (hf a)

end Check

section

variable (t : SymbolTable)

open Check

lemma Term.reportsAt_typeOf (tm : Term) : (tm.typeOf t).ReportsAt (Expr.term tm).sites := by
  cases tm with
  | name n =>
      rw [typeOf, Name.typeOf]
      cases t.lookup n.text with
      | some ty => exact reportsAt_of_silent rfl
      | none => exact reportsAt_report (.unknownName n) _
  | int _ | string _ | bool _ => exact reportsAt_of_silent rfl

lemma Operator.reportsAt_typeOf (span : Span) (op : Operator) (l r : Ty) :
    (op.typeOf span l r).ReportsAt [⟨.operands, span⟩] := by
  rcases l with a | _ <;> rcases r with b | _
  case base.base =>
    rw [typeOf]
    split
    · exact reportsAt_of_silent rfl
    · exact reportsAt_report (.operands span a b) _
  all_goals exact reportsAt_of_silent rfl

/-- **An expression reports along its sites**, from left to right and from the leaves up. -/
lemma Expr.reportsAt_typeOf (e : Expr) : (e.typeOf t).ReportsAt e.sites := by
  induction e with
  | term tm => exact (tm.reportsAt_typeOf t).bind_silent fun _ => rfl
  | paren inner span ih => exact ih.bind_silent fun _ => rfl
  | binary lhs ops rhs span ihl ihr =>
      rw [typeOf, sites, List.append_assoc]
      cases singleOperator? ops with
      | none => exact reportsAt_of_silent rfl
      | some op =>
          have hnode : ∀ l r, (op.typeOf span l r >>= fun ty =>
              trace (.typed (.binary lhs ops rhs span) ty) >>= fun _ => pure ty).ReportsAt
                [⟨.operands, span⟩] := fun l r =>
            (op.reportsAt_typeOf span l r).bind_silent fun _ => rfl
          exact ihl.bind fun l => ihr.bind fun r => hnode l r

lemma Assignment.reportsAt_check (a : Assignment) :
    (a.check t).ReportsAt (a.expr.sites ++ [⟨.assignment, a.span⟩]) := by
  refine (a.expr.reportsAt_typeOf t).bind fun ty => ?_
  unfold settle
  split
  · split
    · exact reportsAt_of_silent rfl
    · exact reportsAt_report (.assignment a.span a.name _ a.expr.text _) t
  · exact reportsAt_of_silent rfl
  · exact reportsAt_of_silent rfl

lemma Options.reportsAt_checkCondition (o : Options) (e : Expr) (ty : Ty) :
    (o.checkCondition e ty).ReportsAt [⟨.condition, e.span⟩] := by
  rw [checkCondition]
  split
  · exact reportsAt_report (.condition e.span ty) ()
  · exact reportsAt_of_silent rfl

namespace Visit

variable (o : Options)

/-- **A visit reports along its sites.** -/
lemma reportsAt_check (v : Visit) : (v.check o t).ReportsAt v.sites := by
  cases v with
  | declare d => exact reportsAt_of_silent (declare_yields_iff.2 ⟨rfl, rfl⟩).1
  | initializer d a =>
      rw [check]
      split
      · exact a.reportsAt_check t
      · exact reportsAt_of_silent rfl
  | assign a => exact a.reportsAt_check t
  | condition e =>
      exact (e.reportsAt_typeOf t).bind fun ty =>
        (o.reportsAt_checkCondition e ty).bind_silent fun _ => rfl
  | print e => exact (e.reportsAt_typeOf t).bind_silent fun _ => rfl

/-- **A run reports along the sites of its visits**, also if it ends at a violation. -/
lemma reportsAt_run (vs : List Visit) : (run o vs t).ReportsAt (vs.flatMap sites) := by
  induction vs generalizing t with
  | nil => exact reportsAt_of_silent rfl
  | cons v vs ih =>
      rw [run_cons, List.flatMap_cons]
      exact (reportsAt_check t o v).bind ih

end Visit

end

/-- **A run reports in the order of the traversal and at most once at each site.**

Checking any program, on any log and with any options, appends errors that are at some of the sites
of the program, in their order, also if the run ends at a violation.  So each report can be given a
site of its own, such that later reports are at later sites. -/
theorem Log.check_reports_along_sites (p : Program) (o : Options) (l : Log) :
    ∃ es : List TypingError,
      (l.check o p).1.entries = l.entries ++ es.map TypingError.diagnostic ∧
      (es.map TypingError.site).Sublist p.sites ∧
      ∃ place : ℕ ↪o ℕ, ∀ i, es[i]?.map TypingError.site = p.sites[place i]? := by
  have hsites := Visit.reportsAt_run .empty o p.visits
  obtain ⟨place, hplace⟩ := List.sublist_iff_exists_orderEmbedding_getElem?_eq.1 hsites
  refine ⟨_, l.entries_check o p, hsites, place, fun i => ?_⟩
  rw [← List.getElem?_map]
  exact hplace i

end ScriptTyping
