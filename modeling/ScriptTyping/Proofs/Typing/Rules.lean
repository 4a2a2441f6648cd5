import ScriptTyping.Proofs.Symbols
import ScriptTyping.Proofs.Typing.Traversal

/-!
# What each node contributes to a run

A run that yields a value is built from a few contributions: what a node reports of its own, what
type it finds and what it leaves in the table.  This file names these contributions and states, for
every form of expression and of visit, that a run yields an outcome exactly if the outcome is put
together from them.

The rules are equivalences, so one rule serves to build a run and to take one apart.  For
expressions there is one rule for each form.  All visits but a declaration look at one expression,
and a single rule covers them (`Visit.check_yields_iff`): the reports are those of the expression,
followed by what the visit itself reports about the type found, and the table is changed by
`Visit.effect` alone.  An assignment always amounts to a binding of its target
(`Assignment.settle_yields_iff`), since a binding leaves a name that is bound as it is.
-/

namespace ScriptTyping

variable {t u : SymbolTable} {es : List TypingError} {ty : Ty} {o : Options}

/-! ## Expressions -/

/-- The type of a literal. -/
def Term.literalTy? : Term → Option BaseTy
  | .name _ => none
  | .int _ => some .int
  | .string _ => some .string
  | .bool _ => some .bool

lemma Term.eq_name_or_literal (tm : Term) :
    (∃ n, tm = .name n) ∨ ∃ b, tm.literalTy? = some b := by
  cases tm with
  | name n => exact Or.inl ⟨n, rfl⟩
  | int _ => exact Or.inr ⟨.int, rfl⟩
  | string _ => exact Or.inr ⟨.string, rfl⟩
  | bool _ => exact Or.inr ⟨.bool, rfl⟩

/-- What a binary node itself reports about operands of the given types. -/
def operandReports (span : Span) : Ty → Ty → List TypingError
  | .base a, .base b => if a = b then [] else [.operands span a b]
  | _, _ => []

lemma mem_operandReports_iff {span : Span} {l r : Ty} {err : TypingError} :
    err ∈ operandReports span l r ↔
      ∃ a b, l = .base a ∧ r = .base b ∧ a ≠ b ∧ err = .operands span a b := by
  rcases l with a | _ <;> rcases r with b | _
  case base.base => by_cases hab : a = b <;> simp [operandReports, hab]
  all_goals simp [operandReports]

/-- The type that an operator gives to operands of the given types. -/
def Operator.result (op : Operator) : Ty → Ty → Ty
  | .base a, .base b =>
    if a = b then (if op.isComparison then .base .bool else .base a) else .unknown
  | _, _ => if op.isComparison then .base .bool else .unknown

lemma Operator.typeOf_yields_iff {span : Span} {op : Operator} {l r : Ty} :
    (op.typeOf span l r).Yields es ty ↔ es = operandReports span l r ∧ ty = op.result l r := by
  cases l with
  | unknown => simp only [typeOf, operandReports, result, Check.yields_pure_iff]
  | base a =>
      cases r with
      | unknown => simp only [typeOf, operandReports, result, Check.yields_pure_iff]
      | base b =>
          by_cases h : a = b
          · simp only [typeOf, operandReports, result, if_pos h, Check.yields_pure_iff]
          · simp [typeOf, operandReports, result, if_neg h, Check.yields_map_iff,
              Check.yields_report_iff]

namespace Expr

lemma yields_name_iff {n : Name} : (typeOf t (.term (.name n))).Yields es ty ↔
    t.lookup n.text = some ty ∧ es = [] ∨
      n.text ∉ t.names ∧ es = [.unknownName n] ∧ ty = .unknown := by
  rw [← SymbolTable.lookup_eq_none_iff]
  cases h : t.lookup n.text with
  | none =>
      simp [typeOf, Term.typeOf, Name.typeOf, h, Check.yields_bind_iff, Check.yields_map_iff,
        Check.yields_trace_iff, Check.yields_report_iff, and_comm]
  | some ty' =>
      simp [typeOf, Term.typeOf, Name.typeOf, h, Check.yields_map_iff, Check.yields_trace_iff,
        and_comm, eq_comm]

lemma yields_literal_iff {tm : Term} {b : BaseTy} (h : tm.literalTy? = some b) :
    (typeOf t (.term tm)).Yields es ty ↔ es = [] ∧ ty = .base b := by
  have hpure : tm.typeOf t = pure (.base b) := by
    cases tm <;> simp_all [Term.literalTy?, Term.typeOf]
  simp [typeOf, hpure, Check.yields_map_iff, Check.yields_trace_iff]

lemma yields_paren_iff {inner : Expr} {span : Span} :
    (typeOf t (.paren inner span)).Yields es ty ↔ (inner.typeOf t).Yields es ty := by
  simp [typeOf, Check.yields_bind_iff, Check.yields_map_iff, Check.yields_trace_iff]

lemma yields_binary_iff {lhs rhs : Expr} {ops : List (Spanned Operator)} {span : Span} :
    (typeOf t (.binary lhs ops rhs span)).Yields es ty ↔
      ∃ op es₁ l es₂ r, ops = [op] ∧ (lhs.typeOf t).Yields es₁ l ∧ (rhs.typeOf t).Yields es₂ r ∧
        es = es₁ ++ es₂ ++ operandReports span l r ∧ ty = op.value.result l r := by
  rcases ops with _ | ⟨op, _ | ⟨op', ops⟩⟩
  · simp [typeOf, singleOperator?, Check.not_yields_violate]
  · simp only [typeOf, singleOperator?, Check.yields_bind_iff, Check.yields_pure_iff,
      Check.yields_trace_iff, Operator.typeOf_yields_iff]
    constructor
    · rintro ⟨es₁, l, -, hl, ⟨es₂, r, -, hr, ⟨_, _, _, ⟨rfl, rfl⟩, ⟨_, _, _, rfl, ⟨rfl, rfl⟩, rfl⟩,
        rfl⟩, rfl⟩, rfl⟩
      exact ⟨op, es₁, l, es₂, r, rfl, hl, hr, by simp, rfl⟩
    · rintro ⟨op', es₁, l, es₂, r, hop, hl, hr, rfl, rfl⟩
      obtain rfl : op = op' := List.singleton_inj.1 hop
      exact ⟨es₁, l, _, hl, ⟨es₂, r, _, hr, ⟨_, _, _, ⟨rfl, rfl⟩,
        ⟨_, (), _, rfl, ⟨rfl, rfl⟩, rfl⟩, rfl⟩, rfl⟩, by simp⟩
  · simp [typeOf, singleOperator?, Check.not_yields_violate]

end Expr

/-! ## Assignments, conditions and declarations -/

/-- What an assignment itself reports if its target is recorded with the type `known`, or not at
all, and its expression has the type given last. -/
def Assignment.reports (a : Assignment) : (known : Option Ty) → Ty → List TypingError
  | some (.base expected), .base actual =>
    if expected = actual then [] else [.assignment a.span a.name expected a.expr.text actual]
  | _, _ => []

lemma Assignment.mem_reports_iff {a : Assignment} {known : Option Ty} {err : TypingError} :
    err ∈ a.reports known ty ↔ ∃ expected actual, known = some (.base expected) ∧
      ty = .base actual ∧ actual ≠ expected ∧
        err = .assignment a.span a.name expected a.expr.text actual := by
  rcases known with _ | (expected | _) <;> rcases ty with actual | _
  case some.base.base =>
    by_cases h : expected = actual
    · simp [reports, h]
    · simp [reports, h, Ne.symm h]
  all_goals simp [reports]

/-- The binding that an assignment asks for. -/
def Assignment.binding (a : Assignment) (ty : Ty) : Binding := ⟨ty, .inferred, a.span⟩

lemma Assignment.settle_yields_iff {a : Assignment} : (a.settle t ty).Yields es u ↔
    es = a.reports (t.lookup a.name.text) ty ∧ u = t.bind a.name.text (a.binding ty) := by
  cases h : t.lookup a.name.text with
  | none =>
      simp [settle, h, reports, binding, Check.yields_map_iff, Check.yields_trace_iff]
  | some known =>
      have hbind : t.bind a.name.text (a.binding ty) = t :=
        SymbolTable.bind_of_mem (SymbolTable.mem_names_of_lookup h)
      rw [hbind]
      cases known with
      | unknown => simp [settle, h, reports, Check.yields_pure_iff]
      | base expected =>
          cases ty with
          | unknown => simp [settle, h, reports, Check.yields_pure_iff]
          | base actual =>
              by_cases hty : expected = actual
              · simp [settle, h, reports, hty, Check.yields_pure_iff]
              · simp [settle, h, reports, hty, Check.yields_map_iff, Check.yields_report_iff]

/-- What a condition of the given type makes a run report. -/
def Options.conditionReports (o : Options) (e : Expr) (ty : Ty) : List TypingError :=
  if o.strictConditions && !ty.agrees (.base .bool) then [.condition e.span ty] else []

lemma Options.mem_conditionReports_iff {e : Expr} {err : TypingError} :
    err ∈ o.conditionReports e ty ↔
      o.strictConditions = true ∧ (∃ b, ty = .base b ∧ b ≠ .bool) ∧ err = .condition e.span ty := by
  cases ty with
  | unknown => simp [conditionReports, Ty.agrees]
  | base b => by_cases hb : b = .bool <;> simp [conditionReports, Ty.agrees, hb]

lemma Options.checkCondition_yields_iff {e : Expr} {v : Unit} :
    (o.checkCondition e ty).Yields es v ↔ es = o.conditionReports e ty := by
  by_cases h : (o.strictConditions && !ty.agrees (.base .bool)) = true
  · simp only [checkCondition, conditionReports, if_pos h, Check.yields_report_iff]
  · simp only [checkCondition, conditionReports, if_neg h, Check.yields_pure_iff, and_true]

/-- A declaration that finds its name bound leaves an event at most. -/
lemma Decl.noteRedeclaration_yields_iff {d : Decl} {v : Unit} :
    (d.noteRedeclaration ty).Yields es v ↔ es = [] := by
  by_cases h : ty = .base d.ty.value
  · simp [noteRedeclaration, h, Check.yields_pure_iff]
  · simp [noteRedeclaration, h, Check.yields_trace_iff]

/-! ## Visits -/

namespace Visit

variable {v : Visit} {vs : List Visit} {e : Expr}

/-- What a visit itself reports once the type of its expression is found. -/
def reports (o : Options) (t : SymbolTable) : Visit → Ty → List TypingError
  | declare _, _ => []
  | initializer _ a, ty | assign a, ty => a.reports (t.lookup a.name.text) ty
  | condition e, ty => o.conditionReports e ty
  | print _, _ => []

/-- The table after a visit whose expression has the given type. -/
def effect (t : SymbolTable) : Visit → Ty → SymbolTable
  | declare d, _ => t.bind d.name.text d.binding
  | initializer _ a, ty | assign a, ty => t.bind a.name.text (a.binding ty)
  | condition _, _ | print _, _ => t

/-- An initializer assigns to the declared name. -/
def Targeted : Visit → Prop
  | initializer d a => a.name.text = d.name.text
  | _ => True

lemma eq_declare_or_expr (v : Visit) : (∃ d, v = declare d) ∨ ∃ e, v.expr? = some e := by
  cases v with
  | declare d => exact Or.inl ⟨d, rfl⟩
  | initializer d a => exact Or.inr ⟨a.expr, rfl⟩
  | assign a => exact Or.inr ⟨a.expr, rfl⟩
  | condition e => exact Or.inr ⟨e, rfl⟩
  | print e => exact Or.inr ⟨e, rfl⟩

lemma declare_yields_iff {d : Decl} : ((declare d).check o t).Yields es u ↔
    es = [] ∧ u = t.bind d.name.text d.binding := by
  simp [check, Check.yields_map_iff, Decl.noteRedeclaration_yields_iff]

lemma assign_yields_iff {a : Assignment} : (a.check t).Yields es u ↔
    ∃ es₁ ty, (a.expr.typeOf t).Yields es₁ ty ∧
      es = es₁ ++ a.reports (t.lookup a.name.text) ty ∧ u = t.bind a.name.text (a.binding ty) := by
  simp only [Assignment.check, Check.yields_bind_iff, Assignment.settle_yields_iff]
  constructor
  · rintro ⟨es₁, ty, -, he, ⟨rfl, rfl⟩, rfl⟩
    exact ⟨es₁, ty, he, rfl, rfl⟩
  · rintro ⟨es₁, ty, he, rfl, rfl⟩
    exact ⟨es₁, ty, _, he, ⟨rfl, rfl⟩, rfl⟩

/-- **The rule of a visit.** A visit that looks at an expression yields what the expression yields,
followed by its own reports and its effect on the table. -/
lemma check_yields_iff (he : v.expr? = some e) : (v.check o t).Yields es u ↔
    v.Targeted ∧ ∃ es₁ ty, (e.typeOf t).Yields es₁ ty ∧
      es = es₁ ++ v.reports o t ty ∧ u = v.effect t ty := by
  cases v with
  | declare d => cases he
  | initializer d a =>
      obtain rfl : a.expr = e := Option.some.inj he
      by_cases h : a.name.text = d.name.text
      · rw [check, if_pos h, assign_yields_iff]
        simp only [Targeted, h, true_and, reports, effect]
      · rw [check, if_neg h]
        simp only [Targeted, h, false_and, Check.not_yields_violate]
  | assign a =>
      obtain rfl : a.expr = e := Option.some.inj he
      simp only [check, Targeted, true_and, assign_yields_iff, reports, effect]
  | condition e' =>
      obtain rfl : e' = e := Option.some.inj he
      simp [check, Targeted, reports, effect, Check.yields_bind_iff, Check.yields_map_iff,
        Options.checkCondition_yields_iff, and_comm]
  | print e' =>
      obtain rfl : e' = e := Option.some.inj he
      simp [check, Targeted, reports, effect, Check.yields_map_iff]

/-- Whatever a visit finds, the table changes by its effect. -/
lemma exists_effect (h : (v.check o t).Yields es u) : ∃ ty, u = v.effect t ty := by
  rcases v.eq_declare_or_expr with ⟨d, rfl⟩ | ⟨e, he⟩
  · exact ⟨.unknown, (declare_yields_iff.1 h).2⟩
  · obtain ⟨-, -, ty, -, -, hu⟩ := (check_yields_iff he).1 h
    exact ⟨ty, hu⟩

/-! ## What a run leaves in the table -/

lemma mem_names_effect {x : String} :
    x ∈ (v.effect t ty).names ↔ x ∈ t.names ∨ v.target? = some x := by
  cases v with
  | declare _ | initializer _ _ | assign _ =>
      simp [effect, target?, SymbolTable.mem_names_bind, eq_comm]
  | condition _ | print _ => simp [effect, target?]

lemma isPrefix_effect : t.entries <+: (v.effect t ty).entries := by
  cases v with
  | declare _ | initializer _ _ | assign _ => exact SymbolTable.isPrefix_bind
  | condition _ | print _ => exact List.prefix_rfl

lemma run_cons_yields_iff : (run o (v :: vs) t).Yields es u ↔ ∃ es₁ t' es₂,
    (v.check o t).Yields es₁ t' ∧ (run o vs t').Yields es₂ u ∧ es = es₁ ++ es₂ := by
  rw [run_cons, Check.yields_bind_iff]

lemma run_nil_yields_iff : (run o [] t).Yields es u ↔ es = [] ∧ u = t := Check.yields_pure_iff

/-- The table of a run binds the names bound before it and the targets of its visits. -/
lemma mem_names_run {x : String} (h : (run o vs t).Yields es u) :
    x ∈ u.names ↔ x ∈ t.names ∨ x ∈ targets vs := by
  induction vs generalizing t es with
  | nil =>
      obtain ⟨-, rfl⟩ := run_nil_yields_iff.1 h
      simp
  | cons v vs ih =>
      obtain ⟨es₁, t', es₂, hv, hvs, -⟩ := run_cons_yields_iff.1 h
      obtain ⟨ty, rfl⟩ := exists_effect hv
      rw [ih hvs, mem_names_effect, or_assoc, targets_cons, List.mem_append, Option.mem_toList]

/-- A run leaves every entry of its table where it was. -/
lemma isPrefix_run (h : (run o vs t).Yields es u) : t.entries <+: u.entries := by
  induction vs generalizing t es with
  | nil =>
      obtain ⟨-, rfl⟩ := run_nil_yields_iff.1 h
      exact List.prefix_rfl
  | cons v vs ih =>
      obtain ⟨es₁, t', es₂, hv, hvs, -⟩ := run_cons_yields_iff.1 h
      obtain ⟨ty, rfl⟩ := exists_effect hv
      exact isPrefix_effect.trans (ih hvs)

end Visit

/-! ## Programs and their log -/

/-- A program is checked by a run over its visits from the empty table. The marks at the beginning
and at the end of the run are no errors. -/
lemma Program.check_eq_run (o : Options) (p : Program) :
    (p.check o).errors = (Visit.run o p.visits .empty).errors ∧
      (p.check o).result = (Visit.run o p.visits .empty).result := by
  rw [Program.visits, ← Stmt.checkAll_eq_run, Program.check, Check.errors_bind_of_ok rfl,
    Check.result_bind_of_ok rfl]
  cases h : (Stmt.checkAll o p.stmts .empty).result with
  | error v =>
      rw [Check.errors_bind_of_error h, Check.result_bind_of_error h]
      exact ⟨rfl, rfl⟩
  | ok u =>
      rw [Check.errors_bind_of_ok h, Check.result_bind_of_ok h]
      exact ⟨List.append_nil _, rfl⟩

lemma Log.entries_addAll (l : Log) (ds : List Diagnostic) :
    (l.addAll ds).entries = l.entries ++ ds := by
  induction ds generalizing l with
  | nil => exact (List.append_nil _).symm
  | cons d ds ih =>
      have hadd : (l.add d).entries = l.entries ++ [d] := rfl
      rw [Log.addAll, List.foldl_cons, ← Log.addAll, ih, hadd, List.append_assoc]
      rfl

/-- Checking a program on a log appends a diagnostic for each report of the run. -/
lemma Log.entries_check (l : Log) (o : Options) (p : Program) :
    (l.check o p).1.entries =
      l.entries ++ (Visit.run o p.visits .empty).errors.map TypingError.diagnostic := by
  rw [Log.check, Log.entries_addAll, (p.check_eq_run o).1]

lemma Log.result_check (l : Log) (o : Options) (p : Program) :
    (l.check o p).2 = (Visit.run o p.visits .empty).result :=
  (p.check_eq_run o).2

lemma Log.check_of_yields (l : Log) {p : Program} (h : (Visit.run o p.visits .empty).Yields es u) :
    (l.check o p).1.entries = l.entries ++ es.map TypingError.diagnostic ∧
      (l.check o p).2 = .ok u := by
  rw [Log.entries_check, Log.result_check, h.1, h.2]
  exact ⟨rfl, rfl⟩

/-- A check that yields a table and leaves the log as it was is a run that reports nothing. -/
lemma Log.check_silent_iff (l : Log) {p : Program} :
    (l.check o p).2 = .ok u ∧ (l.check o p).1.entries = l.entries ↔
      (Visit.run o p.visits .empty).Yields [] u := by
  rw [Log.entries_check, Log.result_check, List.append_right_eq_self, List.map_eq_nil_iff, and_comm]
  rfl

end ScriptTyping
