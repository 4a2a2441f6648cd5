import ScriptTyping.Proofs.Typing.Acceptance

/-!
# Checking a program twice

A program can be followed by itself.  The second half is then checked from the table that the first
one ends with, and not from the table that was there at each point of the first half.  So its
statements meet a larger table: a name that was used too early is bound now, and a declaration or an
assignment that established its name finds it bound.

The table stays as it is, because every name that the second half targets is bound by then
(`Visit.eq_of_targets_bound`).  Of the unknown names, only those come up again that nothing
establishes (`Visit.unestablished_of_known`).  Other errors can be new, since a name that was
unknown at first can have a type the second time, and this type can be wrong.  But if the first half
reports nothing, its table is a typing of the whole program (`Program.typedBy_of_silent`), under
which the second half has nothing to report either (`Program.silent_again`).

Main statement: `Log.check_repeated`.
-/

namespace ScriptTyping

namespace Visit

variable {o : Options} {t u : SymbolTable} {es : List TypingError} {v : Visit} {vs : List Visit}

lemma forall_mem_targets_cons_iff {P : String → Prop} : (∀ x ∈ targets (v :: vs), P x) ↔
    (∀ x, v.target? = some x → P x) ∧ ∀ x ∈ targets vs, P x := by
  simp [targets_cons, or_imp, forall_and]

lemma effect_of_bound {ty : Ty} (h : ∀ x, v.target? = some x → x ∈ t.names) :
    v.effect t ty = t := by
  cases v with
  | declare d => exact SymbolTable.bind_of_mem (h d.name.text rfl)
  | initializer _ a | assign a => exact SymbolTable.bind_of_mem (h a.name.text rfl)
  | condition _ | print _ => rfl

/-- **A run whose targets are all bound leaves its table as it is.** -/
lemma eq_of_targets_bound (hbound : ∀ x ∈ targets vs, x ∈ t.names)
    (h : (run o vs t).Yields es u) : u = t := by
  induction vs generalizing es with
  | nil => exact (run_nil_yields_iff.1 h).2
  | cons v vs ih =>
      obtain ⟨es₁, t', es₂, hv, hvs, -⟩ := run_cons_yields_iff.1 h
      obtain ⟨hhead, hrest⟩ := forall_mem_targets_cons_iff.1 hbound
      obtain ⟨ty, rfl⟩ := exists_effect hv
      rw [effect_of_bound hhead] at hvs
      exact ih hrest hvs

/-- Where all targets are known beforehand, the order of the visits makes no difference to what is
unestablished. -/
lemma unestablished_of_known {known : List String} (hknown : ∀ x ∈ targets vs, x ∈ known) :
    unestablished known (vs.map footprint) =
      (vs.flatMap uses).filter (fun n => n.text ∉ known) := by
  induction vs generalizing known with
  | nil => rfl
  | cons v vs ih =>
      obtain ⟨hhead, hrest⟩ := forall_mem_targets_cons_iff.1 hknown
      -- The target of this visit is nothing new to what is known.
      have hsame : ∀ x, x ∈ known ++ v.target?.toList ↔ x ∈ known := by
        intro x
        simpa using hhead x
      have hlater : unestablished (known ++ v.target?.toList) (vs.map footprint) =
          (vs.flatMap uses).filter (fun n => n.text ∉ known) := by
        rw [ih fun x hx => (hsame x).2 (hrest x hx)]
        simp only [hsame]
      rw [List.map_cons, unestablished, List.flatMap_cons, List.filter_append]
      exact congrArg _ hlater

end Visit

section

variable {o : Options} {p : Program} {t u : SymbolTable} {es fs : List TypingError}

/-- The table of a program binds exactly the names that the program targets. -/
lemma Program.mem_names_iff (h : (Visit.run o p.visits .empty).Yields es t) (x : String) :
    x ∈ t.names ↔ x ∈ Visit.targets p.visits := by
  simp [Visit.mem_names_run h]

/-- What the second run over a program reports as unknown: the occurrences of names that the program
does not target anywhere. -/
lemma Program.unknownNames_again (h : (Visit.run o p.visits .empty).Yields es t)
    (hagain : (Visit.run o p.visits t).Yields fs u) :
    fs.filterMap TypingError.unknownName? =
      (p.visits.flatMap Visit.uses).filter (fun n => n.text ∉ Visit.targets p.visits) := by
  have hbound : ∀ x, x ∈ Visit.targets p.visits ↔ x ∈ t.names := fun x =>
    (p.mem_names_iff h x).symm
  rw [Visit.filterMap_run hbound hagain, Visit.unestablished_of_known fun x hx => hx]

/-- A name that is established before it is used is targeted somewhere. -/
lemma Program.Established.mem_targets (h : p.Established) {n : Name}
    (hn : n ∈ p.visits.flatMap Visit.uses) : n.text ∈ Visit.targets p.visits := by
  obtain ⟨v, hv, huse⟩ := List.mem_flatMap.1 hn
  obtain ⟨before, after, hsplit⟩ := List.append_of_mem hv
  have htarget := h before v after hsplit n huse
  rw [hsplit, Visit.targets_append]
  exact List.mem_append_left _ htarget

/-- **If the first run over a program is silent, so is the second.** -/
lemma Program.silent_again (h : (Visit.run o p.visits .empty).Yields [] t)
    (hagain : (Visit.run o p.visits t).Yields fs u) : fs = [] := by
  obtain ⟨htyped, ht⟩ := Program.typedBy_of_silent h
  have happroximates : t.Approximates t.typing := by
    intro x ty hx
    exact Or.inr (ht x ty hx)
  -- A declaration asks for nothing, since its name is bound already.
  have hdeclared : Visit.Throughout (Visit.FirstDeclared t.typing t.names) p.visits := by
    rintro before _ after hsplit d rfl hfree
    refine absurd (List.mem_append_left _ ?_) hfree
    rw [p.mem_names_iff h, hsplit, Visit.targets_append]
    simp [Visit.targets_cons, Visit.target?]
  obtain ⟨hunknown, -⟩ := Visit.recovers_run happroximates htyped.typed hdeclared hagain
  apply TypingError.eq_nil_of_unknownNames hunknown
  rw [p.unknownNames_again h hagain, List.filter_eq_nil_iff]
  intro n hn
  simpa using htyped.established.mem_targets hn

end

/-- **Checking twice changes nothing.**

Let a well-formed program be checked, on any log and with any options, and then the program that has
its statements twice, one copy after the other.

* Both yield the same table, with the same entries in the same order.
* The longer program is reported what the program itself is, followed by what its second half is.
  The names that the second half is told to be unknown are, one for one and in order, the
  occurrences of names that the program does not target at all.
* If nothing is reported of the program, nothing is reported of the longer one. -/
theorem Log.check_repeated (p : Program) (hp : p.WellFormed) (o : Options) (l : Log)
    (span : Span) :
    ∃ t first second, (l.check o p).2 = .ok t ∧
      (l.check o ⟨p.stmts ++ p.stmts, span⟩).2 = .ok t ∧
      (l.check o p).1.entries = l.entries ++ first ∧
      (l.check o ⟨p.stmts ++ p.stmts, span⟩).1.entries = l.entries ++ first ++ second ∧
      second.filterMap Diagnostic.unknownName? =
        (p.visits.flatMap Visit.uses).filter (fun n => n.text ∉ Visit.targets p.visits) ∧
      (first = [] → second = []) := by
  obtain ⟨es, t, h⟩ := hp.exists_yields o .empty
  obtain ⟨fs, u, hagain⟩ := hp.exists_yields o t
  obtain rfl : u = t := Visit.eq_of_targets_bound (fun x hx => (p.mem_names_iff h x).2 hx) hagain
  have hboth : (Visit.run o (p.visits ++ p.visits) .empty).Yields (es ++ fs) u := by
    rw [Visit.run_append]
    exact Check.yields_bind_iff.2 ⟨es, u, fs, h, hagain, rfl⟩
  have hvisits : Program.visits ⟨p.stmts ++ p.stmts, span⟩ = p.visits ++ p.visits :=
    Stmt.visitsAll_append p.stmts p.stmts
  rw [← hvisits] at hboth
  obtain ⟨hentries, hok⟩ := l.check_of_yields h
  obtain ⟨hentries', hok'⟩ := l.check_of_yields hboth
  refine ⟨u, es.map TypingError.diagnostic, fs.map TypingError.diagnostic, hok, hok', hentries,
    ?_, ?_, ?_⟩
  · rw [hentries', List.map_append, List.append_assoc]
  · rw [filterMap_unknownName?_diagnostic, p.unknownNames_again h hagain]
  · intro hfirst
    obtain rfl : es = [] := List.map_eq_nil_iff.1 hfirst
    rw [p.silent_again h hagain, List.map_nil]

/-- A program that uses `y` in a sum and beside a string before it declares `y`, assigns a truth
value to it and prints `w`, which nothing establishes. -/
def declaresLate : Program where
  stmts := [
    .assign ⟨⟨"x", .ofLine 1⟩,
      .binary (.term (.name ⟨"y", .ofLine 1⟩)) [⟨.add, .ofLine 1⟩] (.term (.int ⟨1, .ofLine 1⟩))
        (.ofLine 1), .ofLine 1⟩,
    .ifThen (.binary (.term (.name ⟨"y", .ofLine 2⟩)) [⟨.equals, .ofLine 2⟩]
        (.term (.string ⟨"a", .ofLine 2⟩)) (.ofLine 2)) [
      .decl ⟨⟨"y", .ofLine 3⟩, ⟨.int, .ofLine 3⟩, some ⟨⟨"y", .ofLine 3⟩,
        .term (.bool ⟨true, .ofLine 3⟩), .ofLine 3⟩, .ofLine 3⟩] (.ofLine 2),
    .print (.term (.name ⟨"w", .ofLine 4⟩)) (.ofLine 4)]
  span := .ofLine 1

/-- A program that is checked without a report: the declaration of `x` comes after an assignment
has given it another type. -/
def declaresInVain : Program where
  stmts := [
    .assign ⟨⟨"x", .ofLine 1⟩, .term (.bool ⟨true, .ofLine 1⟩), .ofLine 1⟩,
    .ifThen (.term (.name ⟨"x", .ofLine 2⟩)) [
      .decl ⟨⟨"x", .ofLine 3⟩, ⟨.int, .ofLine 3⟩, none, .ofLine 3⟩] (.ofLine 2)]
  span := .ofLine 1

/-- What the second half of `declaresLate` is reported. The first error is new: `y` has a type by
then. -/
def lateReports : List Diagnostic := [
  (TypingError.operands (.ofLine 2) .int .string).diagnostic,
  (TypingError.assignment (.ofLine 3) ⟨"y", .ofLine 3⟩ .int "true" .bool).diagnostic,
  (TypingError.unknownName ⟨"w", .ofLine 4⟩).diagnostic]

theorem Log.check_repeated_declarations :
    declaresLate.WellFormed ∧ declaresInVain.WellFormed ∧
      (∃ t, (Log.empty.check {} declaresLate).2 = .ok t ∧
        (Log.empty.check {} ⟨declaresLate.stmts ++ declaresLate.stmts, .ofLine 1⟩).2 = .ok t) ∧
      (Log.empty.check {} ⟨declaresLate.stmts ++ declaresLate.stmts, .ofLine 1⟩).1.entries =
        (Log.empty.check {} declaresLate).1.entries ++ lateReports ∧
      lateReports.filterMap Diagnostic.unknownName? = [⟨"w", .ofLine 4⟩] ∧
      (Log.empty.check ⟨true⟩ ⟨declaresInVain.stmts ++ declaresInVain.stmts, .ofLine 1⟩).1.entries =
        [] := by
  have hlate : declaresLate.WellFormed := by decide
  have hvain : declaresInVain.WellFormed := by decide
  obtain ⟨t, first, second, hok, hok', hfirst, hboth, hnames, -⟩ :=
    Log.check_repeated declaresLate hlate {} .empty (.ofLine 1)
  obtain ⟨_, first', second', -, -, hfirst', hboth', -, hsilent⟩ :=
    Log.check_repeated declaresInVain hvain ⟨true⟩ .empty (.ofLine 1)
  have hsplit :
      (Log.empty.check {} ⟨declaresLate.stmts ++ declaresLate.stmts, .ofLine 1⟩).1.entries =
        (Log.empty.check {} declaresLate).1.entries ++ lateReports := rfl
  have hsecond : second = lateReports := by
    rw [hboth, hfirst] at hsplit
    exact List.append_cancel_left hsplit
  refine ⟨hlate, hvain, ⟨t, hok, hok'⟩, hsplit, ?_, ?_⟩
  · rw [← hsecond, hnames]
    decide
  · obtain rfl : first' = [] := hfirst'.symm
    rw [hboth', hsilent rfl]
    rfl

end ScriptTyping
