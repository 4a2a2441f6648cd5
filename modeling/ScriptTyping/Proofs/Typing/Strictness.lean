import Mathlib.Data.List.Forall2
import ScriptTyping.Proofs.Typing.Rules

/-!
# What strict conditions add

A run can be asked to insist on conditions of type bool.  It then reports more, and that is all: the
table and the violation, if any, are the same, and so are the other reports and their order.

The two runs are compared as outcomes.  `Check.dropConditions` takes the notes about conditions out
of an outcome.  It commutes with sequencing (`Check.dropConditions_bind`), so that a statement about
two whole runs comes down to one about the single visits: dropping the notes about conditions from a
strict visit gives the lenient one, and changes nothing where no condition is visited
(`Visit.check_lenient`).  Whether a run ends at a violation never enters the argument.

The reports that are added are matched with the conditions of the program one by one and in order
(`Visit.conditions_run`), so that no condition is reported twice.
-/

namespace ScriptTyping

/-! ## Notes about conditions -/

/-- The place and the type that an error about a condition names. -/
def TypingError.condition? : TypingError → Option (Span × Ty)
  | condition span ty => some (span, ty)
  | _ => none

/-- The place and the type that a note about a condition names, be it the report or the event that
announces it. -/
def Note.condition? : Note → Option (Span × Ty)
  | .error e | .event (.reporting e) => e.condition?
  | .event _ => none

/-- The place and the type that a diagnostic about a condition names. -/
def Diagnostic.condition? (d : Diagnostic) : Option (Span × Ty) :=
  match d.cause with
  | some (.fault (.typing e)) => e.condition?
  | _ => none

namespace Check

variable {α β : Type}

/-- The outcome without the notes about conditions. -/
def dropConditions (c : Check α) : Check α := ⟨c.notes.filter (·.condition?.isNone), c.result⟩

lemma dropConditions_pure (a : α) : (pure a : Check α).dropConditions = pure a := rfl

lemma dropConditions_violate (v : Violation) :
    (violate v : Check α).dropConditions = violate v := rfl

lemma dropConditions_trace {e : Event} (h : (Note.event e).condition? = none) :
    (trace e).dropConditions = trace e := by
  simp [dropConditions, trace, h]

lemma dropConditions_report {e : TypingError} (h : e.condition? = none) :
    (report e).dropConditions = report e := by
  simp [dropConditions, report, Note.condition?, h]

lemma dropConditions_bind (c : Check α) (f : α → Check β) :
    (c >>= f).dropConditions = c.dropConditions >>= fun a => (f a).dropConditions := by
  cases h : c.result with
  | error v =>
      have hd : c.dropConditions.result = .error v := h
      rw [bind_of_error h, bind_of_error hd]
      rfl
  | ok a =>
      have hd : c.dropConditions.result = .ok a := h
      rw [bind_of_ok h, bind_of_ok hd]
      exact Check.ext (List.filter_append _ _) rfl

/-- A sequence of parts without notes about conditions has no such note. -/
lemma dropConditions_bind_eq_self {c : Check α} {f : α → Check β} (hc : c.dropConditions = c)
    (hf : ∀ a, (f a).dropConditions = f a) : (c >>= f).dropConditions = c >>= f := by
  rw [dropConditions_bind, hc]
  exact bind_congr hf

lemma errors_dropConditions (c : Check α) :
    c.dropConditions.errors = c.errors.filter (·.condition?.isNone) := by
  rw [errors, dropConditions, List.filterMap_filter, errors, List.filter_filterMap]
  refine List.filterMap_congr fun n _ => ?_
  cases n with
  | event e => simp [Note.error?]
  | error e => cases h : e.condition? <;> simp [Note.error?, Note.condition?, Option.filter, h]

end Check

/-! ## Strict and lenient runs -/

section Runs

variable (t : SymbolTable)

open Check

lemma Term.dropConditions_typeOf (tm : Term) : (tm.typeOf t).dropConditions = tm.typeOf t := by
  cases tm with
  | name n =>
      rw [typeOf, Name.typeOf]
      cases t.lookup n.text with
      | none =>
          exact dropConditions_bind_eq_self (dropConditions_report rfl) fun _ =>
            dropConditions_pure _
      | some ty => rfl
  | int _ | string _ | bool _ => rfl

lemma Operator.dropConditions_typeOf (span : Span) (op : Operator) (l r : Ty) :
    (op.typeOf span l r).dropConditions = op.typeOf span l r := by
  rcases l with a | _ <;> rcases r with b | _
  case base.base =>
    rw [typeOf]
    split
    · rfl
    · exact dropConditions_bind_eq_self (dropConditions_report rfl) fun _ => dropConditions_pure _
  all_goals rfl

/-- Typing an expression leaves no note about a condition. -/
lemma Expr.dropConditions_typeOf (e : Expr) : (e.typeOf t).dropConditions = e.typeOf t := by
  -- What every case ends with: the event that tells the type, and the type itself.
  have hlast : ∀ (e' : Expr) (ty : Ty),
      (trace (.typed e' ty) >>= fun _ => pure ty : Check Ty).dropConditions =
        trace (.typed e' ty) >>= fun _ => pure ty := fun e' ty =>
    dropConditions_bind_eq_self (dropConditions_trace rfl) fun _ => dropConditions_pure ty
  induction e with
  | term tm => exact dropConditions_bind_eq_self (tm.dropConditions_typeOf t) (hlast _)
  | paren inner span ih => exact dropConditions_bind_eq_self ih (hlast _)
  | binary lhs ops rhs span ihl ihr =>
      rw [typeOf]
      cases singleOperator? ops with
      | none => exact dropConditions_violate _
      | some op =>
          exact dropConditions_bind_eq_self ihl fun l => dropConditions_bind_eq_self ihr fun r =>
            dropConditions_bind_eq_self (op.dropConditions_typeOf span l r) (hlast _)

lemma Assignment.dropConditions_check (a : Assignment) :
    (a.check t).dropConditions = a.check t := by
  refine dropConditions_bind_eq_self (a.expr.dropConditions_typeOf t) fun ty => ?_
  unfold settle
  split
  · split
    · rfl
    · exact dropConditions_bind_eq_self (dropConditions_report rfl) fun _ => dropConditions_pure t
  · rfl
  · exact dropConditions_bind_eq_self (dropConditions_trace rfl) fun _ => dropConditions_pure _

lemma Decl.dropConditions_noteRedeclaration (d : Decl) (ty : Ty) :
    (d.noteRedeclaration ty).dropConditions = d.noteRedeclaration ty := by
  rw [noteRedeclaration]
  split
  · rfl
  · exact dropConditions_trace rfl

namespace Visit

/-- **A lenient visit is a strict one without its notes about conditions.** -/
lemma check_lenient (v : Visit) : v.check ⟨false⟩ t = (v.check ⟨true⟩ t).dropConditions := by
  cases v with
  | declare d =>
      exact (dropConditions_bind_eq_self (d.dropConditions_noteRedeclaration _) fun _ =>
        dropConditions_pure _).symm
  | initializer d a =>
      rw [check, check]
      split
      · exact (a.dropConditions_check t).symm
      · rfl
  | assign a => exact (a.dropConditions_check t).symm
  | print e =>
      exact (dropConditions_bind_eq_self (e.dropConditions_typeOf t) fun _ =>
        dropConditions_pure t).symm
  | condition e =>
      rw [check, check, dropConditions_bind, e.dropConditions_typeOf t]
      refine bind_congr fun ty => ?_
      -- Asked to be lenient, a run passes over what a strict one reports and then drops.
      rw [dropConditions_bind]
      by_cases h : ty.agrees (.base .bool) = true
      · simp [Options.checkCondition, h, dropConditions_pure]
      · rw [Options.checkCondition, Options.checkCondition]
        simp only [h]
        rfl

/-- **A lenient run is a strict one without its notes about conditions**, whether or not it ends at
a violation. -/
lemma run_lenient (vs : List Visit) : run ⟨false⟩ vs t = (run ⟨true⟩ vs t).dropConditions := by
  induction vs generalizing t with
  | nil => rfl
  | cons v vs ih =>
      rw [run_cons, run_cons, dropConditions_bind, check_lenient]
      exact bind_congr ih

end Visit

end Runs

/-! ## The reports that are added -/

/-- The condition that a visit comes across, if it is one. -/
def Visit.condition? : Visit → Option Expr
  | condition e => some e
  | _ => none

/-- The conditions of a program, at every depth, in the order of its traversal. -/
def Program.conditions (p : Program) : List Expr := p.visits.filterMap Visit.condition?

/-- A report that rejects the condition: it names the place of the condition, and a known type other
than bool. -/
def Expr.RejectedBy (report : Span × Ty) (e : Expr) : Prop :=
  report.1 = e.span ∧ ∃ b, report.2 = .base b ∧ b ≠ .bool

lemma sublistForall₂_append {α β : Type} {R : α → β → Prop} {as as' : List α} {bs bs' : List β}
    (h : List.SublistForall₂ R as bs) (h' : List.SublistForall₂ R as' bs') :
    List.SublistForall₂ R (as ++ as') (bs ++ bs') := by
  obtain ⟨cs, hcs, hsub⟩ := List.sublistForall₂_iff.1 h
  obtain ⟨cs', hcs', hsub'⟩ := List.sublistForall₂_iff.1 h'
  exact List.sublistForall₂_iff.2 ⟨cs ++ cs', List.rel_append hcs hcs', hsub.append hsub'⟩

lemma Check.filterMap_condition?_eq_nil {α : Type} {c : Check α} (h : c.dropConditions = c) :
    c.errors.filterMap TypingError.condition? = [] := by
  rw [← h, errors_dropConditions, List.filterMap_eq_nil_iff]
  intro e he
  simpa using (List.mem_filter.1 he).2

/-- A condition whose type is rejected is known not to have type bool. -/
lemma Ty.exists_base_of_not_agrees {ty : Ty} (h : ty.agrees (.base .bool) = false) :
    ∃ b, ty = .base b ∧ b ≠ .bool := by
  cases ty with
  | unknown => cases h
  | base b => exact ⟨b, rfl, by simpa [agrees] using h⟩

lemma filterMap_conditionReports (e : Expr) (ty : Ty) :
    List.SublistForall₂ (fun r e => e.RejectedBy r)
      ((Options.conditionReports ⟨true⟩ e ty).filterMap TypingError.condition?) [e] := by
  cases h : ty.agrees (.base .bool) with
  | true => simpa [Options.conditionReports, h] using List.SublistForall₂.nil
  | false =>
      have hreport : (Options.conditionReports ⟨true⟩ e ty).filterMap TypingError.condition? =
          [(e.span, ty)] := by
        simp [Options.conditionReports, h, TypingError.condition?]
      rw [hreport]
      exact .cons ⟨rfl, Ty.exists_base_of_not_agrees h⟩ .nil

namespace Visit

variable {t : SymbolTable}

lemma condition_yields {o : Options} {e : Expr} {ty : Ty} (h : (e.typeOf t).result = .ok ty) :
    ((condition e).check o t).Yields ((e.typeOf t).errors ++ o.conditionReports e ty) t :=
  (check_yields_iff (v := condition e) rfl).2 ⟨trivial, _, ty, ⟨rfl, h⟩, rfl, rfl⟩

/-- What a strict visit reports about conditions, if anything, it reports about the one it comes
across. -/
lemma conditions_check (v : Visit) :
    List.SublistForall₂ (fun r e => e.RejectedBy r)
      ((v.check ⟨true⟩ t).errors.filterMap TypingError.condition?) v.condition?.toList := by
  -- Where no condition is visited, the options make no difference.
  have hother : v.check ⟨false⟩ t = v.check ⟨true⟩ t →
      (v.check ⟨true⟩ t).errors.filterMap TypingError.condition? = [] := fun h =>
    Check.filterMap_condition?_eq_nil ((check_lenient t v).symm.trans h)
  cases v with
  | declare _ | initializer _ _ | assign _ | print _ =>
      rw [hother rfl]
      exact .nil
  | condition e =>
      have hexpr := Check.filterMap_condition?_eq_nil (e.dropConditions_typeOf t)
      cases h : (e.typeOf t).result with
      | error w =>
          rw [check, Check.errors_bind_of_error h, hexpr]
          exact .nil
      | ok ty =>
          rw [(condition_yields h).1, List.filterMap_append, hexpr]
          exact filterMap_conditionReports e ty

/-- **A strict run rejects conditions in order and each at most once.** -/
lemma conditions_run (vs : List Visit) :
    List.SublistForall₂ (fun r e => e.RejectedBy r)
      ((run ⟨true⟩ vs t).errors.filterMap TypingError.condition?) (vs.filterMap condition?) := by
  induction vs generalizing t with
  | nil => exact .nil
  | cons v vs ih =>
      have hcons : (v :: vs).filterMap condition? =
          v.condition?.toList ++ vs.filterMap condition? := by
        cases h : v.condition? <;> simp [h]
      rw [run_cons, hcons]
      cases h : (v.check ⟨true⟩ t).result with
      | error w =>
          rw [Check.errors_bind_of_error h, ← List.append_nil (List.filterMap _ _)]
          exact sublistForall₂_append (conditions_check v) .nil
      | ok u =>
          rw [Check.errors_bind_of_ok h, List.filterMap_append]
          exact sublistForall₂_append (conditions_check v) ih

/-- A condition that a strict run reaches, and that has a known type other than bool, is
reported. -/
lemma condition_mem_errors_run {before after : List Visit} {e : Expr} {b : BaseTy}
    {t₀ : SymbolTable} (hbefore : (run ⟨true⟩ before t₀).result = .ok t)
    (he : (e.typeOf t).result = .ok (.base b)) (hb : b ≠ .bool) :
    .condition e.span (.base b) ∈ (run ⟨true⟩ (before ++ condition e :: after) t₀).errors := by
  have hvisit := condition_yields (o := ⟨true⟩) he
  have hreport : .condition e.span (.base b) ∈ Options.conditionReports ⟨true⟩ e (.base b) := by
    simp [Options.conditionReports, Ty.agrees, hb]
  rw [run_append, Check.errors_bind_of_ok hbefore, run_cons, Check.errors_bind_of_ok hvisit.2,
    hvisit.1]
  exact List.mem_append_right _ (List.mem_append_left _ (List.mem_append_right _ hreport))

end Visit

lemma filter_condition?_diagnostic (es : List TypingError) :
    (es.map TypingError.diagnostic).filter (·.condition?.isNone) =
      (es.filter (·.condition?.isNone)).map TypingError.diagnostic :=
  List.filter_map

lemma filterMap_condition?_diagnostic (es : List TypingError) :
    (es.map TypingError.diagnostic).filterMap Diagnostic.condition? =
      es.filterMap TypingError.condition? :=
  List.filterMap_map

/-- **Strict conditions only add reports.**

A program is checked on any log, once with strict conditions and once without.

* The outcome is the same table or the same violation.
* The lenient run appends to the log what the strict run appends, in the same order, without the
  diagnostics about conditions.
* These are matched, in order, with some of the conditions of the program, each with a condition of
  its own: the diagnostic names its place, and a known type other than bool.
* All conditions that the strict run reaches and finds to have such a type are among them. -/
theorem Log.check_strict_adds_conditions (p : Program) (l : Log) :
    (l.check ⟨false⟩ p).2 = (l.check ⟨true⟩ p).2 ∧
      ∃ new, (l.check ⟨true⟩ p).1.entries = l.entries ++ new ∧
        (l.check ⟨false⟩ p).1.entries = l.entries ++ new.filter (·.condition?.isNone) ∧
        List.SublistForall₂ (fun r e => e.RejectedBy r) (new.filterMap Diagnostic.condition?)
          p.conditions ∧
        ∀ before e after, p.visits = before ++ .condition e :: after →
          ∀ t b, (Visit.run ⟨true⟩ before .empty).result = .ok t →
            (e.typeOf t).result = .ok (.base b) → b ≠ .bool →
              (TypingError.condition e.span (.base b)).diagnostic ∈ new := by
  have hrun := Visit.run_lenient .empty p.visits
  refine ⟨?_, (Visit.run ⟨true⟩ p.visits .empty).errors.map TypingError.diagnostic,
    l.entries_check ⟨true⟩ p, ?_, ?_, ?_⟩
  · rw [Log.result_check, Log.result_check, hrun]
    rfl
  · rw [Log.entries_check, hrun, Check.errors_dropConditions, filter_condition?_diagnostic]
  · rw [filterMap_condition?_diagnostic]
    exact Visit.conditions_run p.visits
  · intro before e after hsplit t b hbefore he hb
    rw [hsplit]
    exact List.mem_map_of_mem (Visit.condition_mem_errors_run hbefore he hb)

/-- A program with a condition of type int around one of type bool, one that uses an unknown name
and one of type string, whose body is malformed. -/
def guards : Program where
  stmts := [
    .ifThen (.term (.int ⟨1, .ofLine 1⟩)) [
      .ifThen (.term (.bool ⟨true, .ofLine 2⟩)) [] (.ofLine 2),
      .ifThen (.term (.name ⟨"y", .ofLine 3⟩)) [] (.ofLine 3),
      .ifThen (.term (.string ⟨"a", .ofLine 4⟩)) [
        .print (.binary (.term (.int ⟨1, .ofLine 5⟩)) [] (.term (.int ⟨2, .ofLine 5⟩)) (.ofLine 5))
          (.ofLine 5)] (.ofLine 4)] (.ofLine 1)]
  span := .ofLine 1

theorem Log.check_guards_strict :
    (Log.empty.check ⟨false⟩ guards).2 = .error (.operatorChain (.ofLine 5) 0) ∧
      (Log.empty.check ⟨true⟩ guards).2 = .error (.operatorChain (.ofLine 5) 0) ∧
      ∃ new, (Log.empty.check ⟨true⟩ guards).1.entries = new ∧
        (Log.empty.check ⟨false⟩ guards).1.entries = new.filter (·.condition?.isNone) ∧
        (TypingError.condition (.ofLine 1) (.base .int)).diagnostic ∈ new ∧
        (TypingError.condition (.ofLine 4) (.base .string)).diagnostic ∈ new := by
  obtain ⟨hresult, new, hstrict, hlenient, -, hreported⟩ :=
    Log.check_strict_adds_conditions guards .empty
  have hviolation : (Log.empty.check ⟨true⟩ guards).2 = .error (.operatorChain (.ofLine 5) 0) := rfl
  refine ⟨hresult.trans hviolation, hviolation, new, hstrict, hlenient, ?_, ?_⟩
  · exact hreported [] _ (guards.visits.drop 1) rfl _ _ rfl rfl (by decide)
  · exact hreported (guards.visits.take 3) _ (guards.visits.drop 4) rfl _ _ rfl rfl (by decide)

end ScriptTyping
