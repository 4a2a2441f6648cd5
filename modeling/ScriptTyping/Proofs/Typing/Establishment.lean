import ScriptTyping.Proofs.Typing.Structure

/-!
# Names used before they are established

A name is established by the first declaration of it or assignment to it, at whatever depth of
nested bodies.  An occurrence of the name in an expression is reported if it comes before that, and
it is reported by itself: neither an earlier report nor a wrong type makes a difference.

The checker decides this by looking the name up in its table.  `unestablished` decides it without a
table, from the *footprints* of a program: for each visit the names it reads and the name it
establishes, and nothing else.  Types, operators, literals and options do not occur in a footprint,
so what is computed from footprints cannot depend on them.

The invariant that joins the two is that the table binds exactly the names established so far.  It
holds at the start of every visit (`Visit.mem_names_run`), and since an expression changes no table
it holds at every name inside an expression too.
-/

namespace ScriptTyping

/-! ## Footprints -/

/-- The names that a visit reads, and the name that it establishes afterwards. -/
structure Footprint where
  uses : List Name
  target? : Option String
deriving DecidableEq

/-- The footprint of a visit. -/
def Visit.footprint (v : Visit) : Footprint := ⟨v.uses, v.target?⟩

/-- The footprints of a program in the order of its traversal. -/
def Program.footprints (p : Program) : List Footprint := p.visits.map Visit.footprint

/-- The occurrences of names that are established neither by `known` nor by an earlier footprint, in
order. -/
def unestablished (known : List String) : List Footprint → List Name
  | [] => []
  | f :: rest =>
    f.uses.filter (fun n => n.text ∉ known) ++ unestablished (known ++ f.target?.toList) rest

/-- Every name that a visit of the program reads is the target of an earlier visit. -/
def Program.Established (p : Program) : Prop :=
  Visit.Throughout (fun before v => ∀ n ∈ v.uses, n.text ∈ Visit.targets before) p.visits

lemma unestablished_eq_nil_iff {known : List String} {vs : List Visit} :
    unestablished known (vs.map Visit.footprint) = [] ↔
      Visit.Throughout (fun before v => ∀ n ∈ v.uses, n.text ∈ known ++ Visit.targets before)
        vs := by
  induction vs generalizing known with
  | nil => simp [unestablished, Visit.throughout_nil]
  | cons v vs ih =>
      rw [List.map_cons, unestablished, List.append_eq_nil_iff, Visit.footprint, ih,
        Visit.throughout_cons_iff]
      simp [Visit.targets_cons]

lemma Program.established_iff {p : Program} :
    p.Established ↔ unestablished [] p.footprints = [] := by
  rw [Program.footprints, unestablished_eq_nil_iff]
  rfl

/-! ## Reports of unknown names -/

/-- The name that an error reports as unknown, if it is such an error. -/
def TypingError.unknownName? : TypingError → Option Name
  | unknownName n => some n
  | _ => none

/-- The name that a diagnostic reports as unknown, if it is such a diagnostic. -/
def Diagnostic.unknownName? (d : Diagnostic) : Option Name :=
  match d.cause with
  | some (.fault (.typing e)) => e.unknownName?
  | _ => none

lemma filterMap_unknownName?_diagnostic (es : List TypingError) :
    (es.map TypingError.diagnostic).filterMap Diagnostic.unknownName? =
      es.filterMap TypingError.unknownName? := by
  rw [List.filterMap_map]
  rfl

lemma filterMap_operandReports (span : Span) (l r : Ty) :
    (operandReports span l r).filterMap TypingError.unknownName? = [] := by
  rw [List.filterMap_eq_nil_iff]
  intro err herr
  obtain ⟨a, b, -, -, -, rfl⟩ := mem_operandReports_iff.1 herr
  rfl

lemma Visit.filterMap_reports (o : Options) (t : SymbolTable) (v : Visit) (ty : Ty) :
    (v.reports o t ty).filterMap TypingError.unknownName? = [] := by
  rw [List.filterMap_eq_nil_iff]
  intro err herr
  cases v with
  | declare _ | print _ => cases herr
  | initializer _ a | assign a =>
      obtain ⟨expected, actual, -, -, -, rfl⟩ := Assignment.mem_reports_iff.1 herr
      rfl
  | condition e =>
      obtain ⟨-, -, rfl⟩ := Options.mem_conditionReports_iff.1 herr
      rfl

/-- An expression reports as unknown exactly the occurrences of names that the table does not
bind. -/
lemma Expr.filterMap_typeOf {t : SymbolTable} {e : Expr} {es : List TypingError} {ty : Ty}
    (h : (e.typeOf t).Yields es ty) :
    es.filterMap TypingError.unknownName? = e.names.filter (fun n => n.text ∉ t.names) := by
  induction e generalizing es ty with
  | term tm =>
      rcases tm.eq_name_or_literal with ⟨n, rfl⟩ | ⟨b, hb⟩
      · rcases yields_name_iff.1 h with ⟨hn, rfl⟩ | ⟨hn, rfl, -⟩
        · simp [names, SymbolTable.mem_names_of_lookup hn]
        · simp [names, hn, TypingError.unknownName?]
      · obtain ⟨rfl, -⟩ := (yields_literal_iff hb).1 h
        cases tm <;> simp_all [names, Term.literalTy?]
  | paren inner span ih => exact ih (yields_paren_iff.1 h)
  | binary lhs ops rhs span ihl ihr =>
      obtain ⟨op, es₁, l, es₂, r, -, hl, hr, rfl, -⟩ := yields_binary_iff.1 h
      rw [List.filterMap_append, List.filterMap_append, ihl hl, ihr hr,
        filterMap_operandReports, List.append_nil, names, List.filter_append]

namespace Visit

variable {o : Options} {t u : SymbolTable} {es : List TypingError}

lemma filterMap_check {v : Visit} (h : (v.check o t).Yields es u) :
    es.filterMap TypingError.unknownName? = v.uses.filter (fun n => n.text ∉ t.names) := by
  rcases v.eq_declare_or_expr with ⟨d, rfl⟩ | ⟨e, he⟩
  · obtain ⟨rfl, -⟩ := declare_yields_iff.1 h
    rfl
  · obtain ⟨-, es₁, ty, hty, rfl, -⟩ := (check_yields_iff he).1 h
    rw [List.filterMap_append, filterMap_reports, List.append_nil, Expr.filterMap_typeOf hty, uses,
      he, Option.elim_some]

/-- A run reports as unknown exactly the occurrences that its footprints leave unestablished. -/
lemma filterMap_run {vs : List Visit} {known : List String} (hk : ∀ x, x ∈ known ↔ x ∈ t.names)
    (h : (run o vs t).Yields es u) :
    es.filterMap TypingError.unknownName? = unestablished known (vs.map footprint) := by
  induction vs generalizing t known es with
  | nil =>
      obtain ⟨rfl, -⟩ := run_nil_yields_iff.1 h
      rfl
  | cons v vs ih =>
      obtain ⟨es₁, t', es₂, hv, hvs, rfl⟩ := run_cons_yields_iff.1 h
      -- What is known at the next visit: the target of this one has joined the table.
      have hk' : ∀ x, x ∈ known ++ v.target?.toList ↔ x ∈ t'.names := by
        intro x
        obtain ⟨ty, rfl⟩ := exists_effect hv
        rw [mem_names_effect, List.mem_append, hk, Option.mem_toList]
      have huses : v.uses.filter (fun n => n.text ∉ t.names) =
          v.uses.filter (fun n => n.text ∉ known) :=
        List.filter_congr fun n _ => by simp only [hk]
      rw [List.filterMap_append, filterMap_check hv, huses, ih hk' hvs, List.map_cons,
        unestablished]
      rfl

end Visit

/-- **Unknown names are the names used before they are established.**

Checking a well-formed program, on any log and with any options, appends diagnostics among which
those about unknown names are, one for one and in order, the occurrences that the footprints of the
program leave unestablished. -/
theorem Log.unknownNames_check_eq_unestablished (p : Program) (hp : p.WellFormed) (o : Options)
    (l : Log) :
    ∃ ds t, (l.check o p).1.entries = l.entries ++ ds ∧ (l.check o p).2 = .ok t ∧
      ds.filterMap Diagnostic.unknownName? = unestablished [] p.footprints := by
  obtain ⟨es, t, h⟩ := hp.exists_yields o .empty
  obtain ⟨hentries, hok⟩ := l.check_of_yields h
  refine ⟨es.map TypingError.diagnostic, t, hentries, hok, ?_⟩
  rw [filterMap_unknownName?_diagnostic]
  exact Visit.filterMap_run (by simp) h

/-- A program that uses `y` in a condition and below it before anything establishes it, and `w` that
nothing establishes.  The assignment to `x` is ill-typed, and the initializer of `z` uses `z`. -/
def lateUses : Program where
  stmts := [
    .ifThen (.binary (.term (.name ⟨"y", .ofLine 1⟩)) [⟨.lessThan, .ofLine 1⟩]
        (.term (.int ⟨1, .ofLine 1⟩)) (.ofLine 1))
      [.assign ⟨⟨"x", .ofLine 2⟩,
        .binary (.term (.string ⟨"a", .ofLine 2⟩)) [⟨.add, .ofLine 2⟩]
          (.binary (.term (.name ⟨"y", .ofLine 2⟩)) [⟨.equals, .ofLine 2⟩]
            (.term (.int ⟨2, .ofLine 2⟩)) (.ofLine 2)) (.ofLine 2), .ofLine 2⟩] (.ofLine 1),
    .decl ⟨⟨"z", .ofLine 3⟩, ⟨.int, .ofLine 3⟩, some ⟨⟨"z", .ofLine 3⟩,
      .binary (.term (.name ⟨"z", .ofLine 3⟩)) [⟨.add, .ofLine 3⟩]
        (.term (.name ⟨"x", .ofLine 3⟩)) (.ofLine 3), .ofLine 3⟩, .ofLine 3⟩,
    .print (.paren (.term (.name ⟨"w", .ofLine 4⟩)) (.ofLine 4)) (.ofLine 4)]
  span := .ofLine 1

theorem Log.unknownNames_check_lateUses :
    lateUses.WellFormed ∧ ∃ ds t, (Log.empty.check {} lateUses).1.entries = ds ∧
      (Log.empty.check {} lateUses).2 = .ok t ∧ ds.filterMap Diagnostic.unknownName? =
        [⟨"y", .ofLine 1⟩, ⟨"y", .ofLine 2⟩, ⟨"w", .ofLine 4⟩] := by
  have hp : lateUses.WellFormed := by decide
  have hnames : unestablished [] lateUses.footprints =
      [⟨"y", .ofLine 1⟩, ⟨"y", .ofLine 2⟩, ⟨"w", .ofLine 4⟩] := by decide
  obtain ⟨ds, t, hentries, hok, hds⟩ :=
    Log.unknownNames_check_eq_unestablished lateUses hp {} .empty
  exact ⟨hp, ds, t, hentries, hok, hds.trans hnames⟩

end ScriptTyping
