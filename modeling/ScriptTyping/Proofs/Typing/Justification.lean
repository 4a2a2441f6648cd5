import ScriptTyping.Diagnostic.Line
import ScriptTyping.Proofs.Typing.Structure

/-!
# Reports are genuine

A report is written down when a fault is found, in the middle of a run, and it is read when the run
is over.  What it says about the table has to be true by then.  This file shows that it is: the type
that an assignment is told to have expected is the one in the table at the end, whatever was checked
in between.

* `Visit.Justifies` says what gives cause for an error, in terms of the visit that reports it, the
  names established before it and the types on record.
* `Visit.justifies_check` establishes this with the table that the visit starts from, and
  `Visit.Justifies.mono` carries it to the table at the end, which has that table at its front.
* `Visit.exists_reportsAfter` finds the visit that makes a given report of a run.
-/

namespace ScriptTyping

/-! ## Causes of errors -/

/-- The expression gives cause for the error, where the names in `known` are established. -/
def Expr.Justifies (known : List String) (e : Expr) : TypingError → Prop
  | .unknownName n => n ∈ e.names ∧ n.text ∉ known
  | .operands span lhs rhs => (∃ ops, .binary ops span ∈ e.nodes) ∧ lhs ≠ rhs
  | .assignment _ _ _ _ _ | .condition _ _ => False

/-- The assignment that a visit makes, be it a statement or an initializer. -/
def Visit.assignment? : Visit → Option Assignment
  | initializer _ a | assign a => some a
  | declare _ | condition _ | print _ => none

/-- The visit gives cause for the error, where the names in `known` are established before it, and
`recorded` are the known types on record:

* a name that the visit reads is not established;
* the operands of a binary node of its expression have two different types;
* it assigns, to a variable on record with one type, an expression of another type, which is quoted;
* it is strict about a condition, whose type is known not to be bool. -/
def Visit.Justifies (o : Options) (known : List String) (recorded : String → Option BaseTy)
    (v : Visit) : TypingError → Prop
  | .unknownName n => n ∈ v.uses ∧ n.text ∉ known
  | .operands span lhs rhs => (∃ ops, .binary ops span ∈ v.nodes) ∧ lhs ≠ rhs
  | .assignment span n expected exprText actual =>
    (∃ a, v.assignment? = some a ∧ a.name = n ∧ a.span = span ∧ a.expr.text = exprText) ∧
      recorded n.text = some expected ∧ actual ≠ expected
  | .condition span ty =>
    o.strictConditions = true ∧ (∃ e, v = .condition e ∧ e.span = span) ∧
      ∃ b, ty = .base b ∧ b ≠ .bool

section

variable {o : Options} {t u : SymbolTable} {es : List TypingError} {ty : Ty} {err : TypingError}

/-! ## Reports of expressions -/

/-- What gives cause for an error in a part of an expression does so in the whole. -/
lemma Expr.Justifies.of_part {known : List String} {e e' : Expr} (hnames : e.names ⊆ e'.names)
    (hnodes : e.nodes ⊆ e'.nodes) (h : e.Justifies known err) : e'.Justifies known err := by
  cases err with
  | unknownName n => exact ⟨hnames h.1, h.2⟩
  | operands span lhs rhs =>
      obtain ⟨⟨ops, hops⟩, hne⟩ := h
      exact ⟨⟨ops, hnodes hops⟩, hne⟩
  | assignment _ _ _ _ _ | condition _ _ => exact h

/-- **An expression reports what it gives cause for.** -/
lemma Expr.justifies_typeOf {e : Expr} (h : (e.typeOf t).Yields es ty) :
    ∀ err ∈ es, e.Justifies t.names err := by
  induction e generalizing es ty with
  | term tm =>
      rcases tm.eq_name_or_literal with ⟨n, rfl⟩ | ⟨b, hb⟩
      · rcases yields_name_iff.1 h with ⟨-, rfl⟩ | ⟨hn, rfl, -⟩
        · exact List.forall_mem_nil _
        · exact List.forall_mem_singleton.2 ⟨List.mem_singleton_self n, hn⟩
      · obtain ⟨rfl, -⟩ := (yields_literal_iff hb).1 h
        exact List.forall_mem_nil _
  | paren inner span ih => exact ih (yields_paren_iff.1 h)
  | binary lhs ops rhs span ihl ihr =>
      obtain ⟨op, es₁, l, es₂, r, -, hl, hr, rfl, -⟩ := yields_binary_iff.1 h
      intro err herr
      rcases List.mem_append.1 herr with hparts | hnode
      · rcases List.mem_append.1 hparts with hlhs | hrhs
        · exact (ihl hl err hlhs).of_part (List.subset_append_left _ _)
            (List.Subset.trans (List.subset_append_left _ _) (List.subset_cons_self _ _))
        · exact (ihr hr err hrhs).of_part (List.subset_append_right _ _)
            (List.Subset.trans (List.subset_append_right _ _) (List.subset_cons_self _ _))
      · obtain ⟨a, b, -, -, hne, rfl⟩ := mem_operandReports_iff.1 hnode
        exact ⟨⟨ops, List.mem_cons_self⟩, hne⟩

/-! ## Reports of visits -/

namespace Visit

variable {v : Visit} {vs : List Visit}

lemma nodes_subset {e : Expr} (he : v.expr? = some e) : e.nodes ⊆ v.nodes := by
  cases v with
  | declare d => cases he
  | initializer d a =>
      obtain rfl : a.expr = e := Option.some.inj he
      exact List.subset_cons_self _ _
  | assign a =>
      obtain rfl : a.expr = e := Option.some.inj he
      exact List.Subset.refl _
  | condition e' | print e' =>
      obtain rfl : e' = e := Option.some.inj he
      exact List.Subset.refl _

lemma justifies_of_expr {known : List String} {recorded : String → Option BaseTy} {e : Expr}
    (he : v.expr? = some e) (h : e.Justifies known err) : v.Justifies o known recorded err := by
  cases err with
  | unknownName n =>
      have huses : v.uses = e.names := by rw [uses, he, Option.elim_some]
      exact ⟨huses ▸ h.1, h.2⟩
  | operands span lhs rhs =>
      obtain ⟨⟨ops, hops⟩, hne⟩ := h
      exact ⟨⟨ops, nodes_subset he hops⟩, hne⟩
  | assignment _ _ _ _ _ | condition _ _ => exact h.elim

lemma justifies_of_assignment {known : List String} {a : Assignment}
    (ha : v.assignment? = some a) (h : err ∈ a.reports (t.lookup a.name.text) ty) :
    v.Justifies o known t.get? err := by
  obtain ⟨expected, actual, hlookup, -, hne, rfl⟩ := Assignment.mem_reports_iff.1 h
  have hget : t.get? a.name.text = some expected := by
    rw [SymbolTable.get?, hlookup]
    rfl
  exact ⟨⟨a, ha, rfl, rfl, rfl⟩, hget, hne⟩

lemma justifies_reports (h : err ∈ v.reports o t ty) : v.Justifies o t.names t.get? err := by
  cases v with
  | declare _ | print _ => cases h
  | initializer _ a | assign a => exact justifies_of_assignment rfl h
  | condition e =>
      obtain ⟨hstrict, htype, rfl⟩ := Options.mem_conditionReports_iff.1 h
      exact ⟨hstrict, ⟨e, rfl, rfl⟩, htype⟩

/-- **A visit reports what it gives cause for**, with respect to the table that it starts from. -/
lemma justifies_check (h : (v.check o t).Yields es u) :
    ∀ err ∈ es, v.Justifies o t.names t.get? err := by
  rcases v.eq_declare_or_expr with ⟨d, rfl⟩ | ⟨e, he⟩
  · obtain ⟨rfl, -⟩ := declare_yields_iff.1 h
    exact List.forall_mem_nil _
  · obtain ⟨-, es₁, ty, hty, rfl, -⟩ := (check_yields_iff he).1 h
    rw [List.forall_mem_append]
    exact ⟨fun err herr => justifies_of_expr he (Expr.justifies_typeOf hty err herr),
      fun err => justifies_reports⟩

/-- A cause remains one when fewer names count as established and more types are on record. -/
lemma Justifies.mono {known known' : List String} {recorded recorded' : String → Option BaseTy}
    (hknown : known' ⊆ known) (hrecorded : ∀ x b, recorded x = some b → recorded' x = some b)
    (h : v.Justifies o known recorded err) : v.Justifies o known' recorded' err := by
  cases err with
  | unknownName n => exact ⟨h.1, fun hn => h.2 (hknown hn)⟩
  | operands _ _ _ | condition _ _ => exact h
  | assignment span n expected exprText actual =>
      exact ⟨h.1, hrecorded n.text expected h.2.1, h.2.2⟩

/-! ## The visit that makes a report -/

/-- Where a run from `t` has visited `before` and goes on with `v`, it is `v` that reports `err`,
and all reports until then are `earlier`. -/
def ReportsAfter (o : Options) (t : SymbolTable) (before : List Visit) (v : Visit)
    (earlier : List TypingError) (err : TypingError) : Prop :=
  ∃ u own, (run o before t).result = .ok u ∧ earlier = (run o before t).errors ++ own ∧
    own ++ [err] <+: (v.check o u).errors

lemma reportsAfter_nil {earlier later : List TypingError}
    (h : (v.check o t).errors = earlier ++ err :: later) : ReportsAfter o t [] v earlier err :=
  ⟨t, earlier, rfl, rfl, later, by rw [h, List.append_assoc]; rfl⟩

lemma ReportsAfter.cons {w : Visit} {before : List Visit} {rest : List TypingError}
    (hv : (v.check o t).result = .ok u) (h : ReportsAfter o u before w rest err) :
    ReportsAfter o t (v :: before) w ((v.check o t).errors ++ rest) err := by
  obtain ⟨u', own, hresult, rfl, hown⟩ := h
  refine ⟨u', own, ?_, ?_, hown⟩
  · rw [run_cons, Check.result_bind_of_ok hv, hresult]
  · rw [run_cons, Check.errors_bind_of_ok hv, List.append_assoc]

/-- **Every report of a run is made by one of its visits.** -/
lemma exists_reportsAfter {earlier later : List TypingError}
    (h : (run o vs t).errors = earlier ++ err :: later) :
    ∃ before v after, vs = before ++ v :: after ∧ ReportsAfter o t before v earlier err := by
  induction vs generalizing t earlier with
  | nil => exact absurd h (by simp [run_nil, Check.errors])
  | cons v vs ih =>
      rw [run_cons] at h
      cases hv : (v.check o t).result with
      | error w =>
          rw [Check.errors_bind_of_error hv] at h
          exact ⟨[], v, vs, rfl, reportsAfter_nil h⟩
      | ok t' =>
          rw [Check.errors_bind_of_ok hv] at h
          have hlater : ∀ rest, (run o vs t').errors = rest ++ err :: later →
              ∃ before w after, v :: vs = before ++ w :: after ∧
                ReportsAfter o t before w ((v.check o t).errors ++ rest) err := by
            intro rest hrest
            obtain ⟨before, w, after, rfl, hw⟩ := ih hrest
            exact ⟨v :: before, w, after, rfl, hw.cons hv⟩
          -- The report is beyond those of the first visit, right after them, or among them.
          rcases List.append_eq_append_iff.1 h with ⟨rest, rfl, hrest⟩ | ⟨own, hown, hsplit⟩
          · exact hlater rest hrest
          · cases own with
            | nil =>
                obtain rfl : (v.check o t).errors = earlier := by rw [hown, List.append_nil]
                simpa using hlater [] hsplit.symm
            | cons err' own =>
                obtain ⟨rfl, -⟩ := List.cons.inj hsplit
                exact ⟨[], v, vs, rfl, reportsAfter_nil hown⟩

end Visit

lemma SymbolTable.get?_eq_some_iff {x : String} {b : BaseTy} :
    t.get? x = some b ↔ t.lookup x = some (.base b) := by
  rw [get?]
  rcases t.lookup x with _ | (b' | _) <;> simp [Ty.base?]

/-- **Every report of a run is justified at its end.** The visit that makes the report gives cause
for it, with respect to the visits before it and to the table that the run yields. -/
lemma Visit.exists_justifies {vs : List Visit} {earlier later : List TypingError}
    (h : (run o vs .empty).Yields (earlier ++ err :: later) t) :
    ∃ before v after, vs = before ++ v :: after ∧
      ReportsAfter o .empty before v earlier err ∧ v.Justifies o (targets before) t.get? err := by
  obtain ⟨before, v, after, rfl, hreports⟩ := exists_reportsAfter h.1
  refine ⟨before, v, after, rfl, hreports, ?_⟩
  obtain ⟨u, own, hu, -, hown⟩ := hreports
  rw [run_append] at h
  obtain ⟨es₁, u', es₂, hbefore, hrest, -⟩ := Check.yields_bind_iff.1 h
  obtain rfl : u = u' := Except.ok.inj (hu.symm.trans hbefore.2)
  obtain ⟨es₃, u', es₄, hv, hafter, -⟩ := run_cons_yields_iff.1 hrest
  have herr : err ∈ es₃ := by
    rw [← hv.1]
    exact hown.subset (List.mem_append_right own (List.mem_singleton_self err))
  refine (justifies_check hv err herr).mono ?_ ?_
  · intro x hx
    exact (mem_names_run hbefore).2 (Or.inr hx)
  · intro x b hb
    -- The table of the visit is still there at the end, at the front of the last one.
    have hprefix : u.entries <+: t.entries := isPrefix_run hrest
    rw [SymbolTable.get?_eq_some_iff] at hb ⊢
    exact SymbolTable.lookup_of_isPrefix hprefix hb

end

/-! ## Diagnostics of reports -/

/-- The diagnostic is the report of the error: it is an error, caused by this one, with its text and
its place.  It is what a draft becomes that is given the error and nothing else, it is attributed to
a line, and it is shown with the text once. -/
structure Diagnostic.IsReportOf (e : TypingError) (d : Diagnostic) : Prop where
  level : d.level = .error
  cause : d.cause = some (.fault (.typing e))
  text : d.message.text = e.message
  span : d.message.span = some e.span
  draft : (Draft.ofSteps .error [.fault (.typing e)]).finish? = some d
  line : d.line = some e.span.line
  shown : ∀ coloured, d.lineText coloured =
    (if coloured then Level.error.colouredTag else Level.error.tag) ++ " " ++ e.message

lemma TypingError.isReportOf_diagnostic (e : TypingError) : e.diagnostic.IsReportOf e where
  level := rfl
  cause := rfl
  text := rfl
  span := rfl
  draft := rfl
  line := rfl
  shown coloured := by
    have hbody : e.diagnostic.body = e.message := if_pos rfl
    rw [Diagnostic.lineText, hbody]
    rfl

/-- **Every report is genuine with respect to the final table.**

Checking a well-formed program, on any log and with any options, yields a table and appends the
diagnostics of some errors, each of which is the report of its error.  Each error is reported by a
visit that gives cause for it:

* a name is reported as unknown at a point where no earlier visit targets it;
* the operands of a binary node are reported only if their types differ;
* an assignment to a variable is reported with the type that the table has for it at the end, with
  another type that was found, and with the text of the expression that it assigns;
* a condition is reported only if the run is strict, with a known type other than bool. -/
theorem Log.check_reports_justified (p : Program) (hp : p.WellFormed) (o : Options) (l : Log) :
    ∃ t es, (l.check o p).2 = .ok t ∧
      (l.check o p).1.entries = l.entries ++ es.map TypingError.diagnostic ∧
      (∀ e ∈ es, e.diagnostic.IsReportOf e) ∧
      ∀ earlier e later, es = earlier ++ e :: later →
        ∃ before v after, p.visits = before ++ v :: after ∧
          Visit.ReportsAfter o .empty before v earlier e ∧
          v.Justifies o (Visit.targets before) t.get? e := by
  obtain ⟨es, t, h⟩ := hp.exists_yields o .empty
  obtain ⟨hentries, hok⟩ := l.check_of_yields h
  refine ⟨t, es, hok, hentries, fun e _ => e.isReportOf_diagnostic, ?_⟩
  rintro earlier e later rfl
  exact Visit.exists_justifies h

/-- A program with an error of each kind.  The last one is about `x`, which is declared as a string
after an assignment has made it an integer. -/
def fourFaults : Program where
  stmts := [
    .assign ⟨⟨"x", .ofLine 1⟩, .term (.int ⟨1, .ofLine 1⟩), .ofLine 1⟩,
    .ifThen (.term (.name ⟨"x", .ofLine 2⟩)) [
      .print (.term (.name ⟨"y", .ofLine 3⟩)) (.ofLine 3),
      .print (.binary (.term (.name ⟨"x", .ofLine 4⟩)) [⟨.equals, .ofLine 4⟩]
        (.term (.string ⟨"a", .ofLine 4⟩)) (.ofLine 4)) (.ofLine 4),
      .decl ⟨⟨"x", .ofLine 5⟩, ⟨.string, .ofLine 5⟩, some ⟨⟨"x", .ofLine 5⟩,
        .term (.bool ⟨true, .ofLine 5⟩), .ofLine 5⟩, .ofLine 5⟩] (.ofLine 2)]
  span := .ofLine 1

theorem Log.check_fourFaults_justified :
    fourFaults.WellFormed ∧ ∃ t, (Log.empty.check ⟨true⟩ fourFaults).2 = .ok t ∧
      (Log.empty.check ⟨true⟩ fourFaults).1.entries =
        [(TypingError.condition (.ofLine 2) (.base .int)).diagnostic,
          (TypingError.unknownName ⟨"y", .ofLine 3⟩).diagnostic,
          (TypingError.operands (.ofLine 4) .int .string).diagnostic,
          (TypingError.assignment (.ofLine 5) ⟨"x", .ofLine 5⟩ .int "true" .bool).diagnostic] ∧
      t.get? "x" = some .int := by
  have hp : fourFaults.WellFormed := by decide
  obtain ⟨t, es, hok, hentries, -, hjustified⟩ :=
    Log.check_reports_justified fourFaults hp ⟨true⟩ .empty
  have hinjective : Function.Injective TypingError.diagnostic := by
    intro e e' h
    have hcause := congrArg Diagnostic.cause h
    injection hcause with hcause
    injection hcause with hfault
    injection hfault
  have hes : es = [.condition (.ofLine 2) (.base .int), .unknownName ⟨"y", .ofLine 3⟩,
      .operands (.ofLine 4) .int .string,
      .assignment (.ofLine 5) ⟨"x", .ofLine 5⟩ .int "true" .bool] :=
    List.map_injective_iff.2 hinjective (hentries.symm.trans rfl)
  obtain ⟨before, v, after, -, -, -, hrecorded, -⟩ := hjustified (es.take 3)
    (.assignment (.ofLine 5) ⟨"x", .ofLine 5⟩ .int "true" .bool) [] (by rw [hes]; rfl)
  exact ⟨hp, t, hok, rfl, hrecorded⟩

end ScriptTyping
