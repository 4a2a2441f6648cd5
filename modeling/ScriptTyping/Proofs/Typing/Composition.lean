import ScriptTyping.Proofs.Typing.Rules

/-!
# Runs compose

A list of statements can be cut anywhere.  The first part is checked as if it were a program of its
own; if it ends at a violation, so does the whole, and otherwise the second part is checked from the
table that the first one left.  Nothing else passes from one part to the other, and nothing at all
passes from the log into a run: what a run reports is added to whatever the log holds.

`Stmt.checkAll_append` is the cut, as an equation between outcomes.  What it means for the log of a
program is `Log.check_append`; that the table only grows on the way is `Stmt.isPrefix_checkAll`.
-/

namespace ScriptTyping

lemma Stmt.checkAll_append (o : Options) (as bs : List Stmt) (t : SymbolTable) :
    Stmt.checkAll o (as ++ bs) t = Stmt.checkAll o as t >>= Stmt.checkAll o bs := by
  rw [checkAll_eq_run, visitsAll_append, Visit.run_append, ← checkAll_eq_run]
  exact bind_congr fun u => (checkAll_eq_run o bs u).symm

/-- The table that statements are checked from stays at the front of the one they yield. -/
lemma Stmt.isPrefix_checkAll {o : Options} {ss : List Stmt} {t u : SymbolTable}
    (h : (Stmt.checkAll o ss t).result = .ok u) : t.entries <+: u.entries := by
  rw [checkAll_eq_run] at h
  exact Visit.isPrefix_run ⟨rfl, h⟩

namespace Log

variable (l : Log) (o : Options)

lemma addAll_append (ds es : List Diagnostic) : l.addAll (ds ++ es) = (l.addAll ds).addAll es :=
  List.foldl_append

/-- A program is checked by checking its statements from the empty table and adding a diagnostic to
the log for each report. -/
lemma check_eq_checkAll (ss : List Stmt) (span : Span) :
    l.check o ⟨ss, span⟩ =
      (l.addAll ((Stmt.checkAll o ss .empty).errors.map TypingError.diagnostic),
        (Stmt.checkAll o ss .empty).result) := by
  obtain ⟨herrors, hresult⟩ := Program.check_eq_run o ⟨ss, span⟩
  rw [Stmt.checkAll_eq_run]
  exact Prod.ext (by rw [check, herrors]; rfl) hresult

variable {l o} {as bs : List Stmt} {s s' : Span}

/-- Where the first part ends at a violation, the second part is not looked at. -/
lemma check_append_of_error {v : Violation} (h : (l.check o ⟨as, s⟩).2 = .error v) :
    l.check o ⟨as ++ bs, s'⟩ = l.check o ⟨as, s⟩ := by
  have hfirst : (Stmt.checkAll o as .empty).result = .error v := by
    rwa [check_eq_checkAll] at h
  rw [check_eq_checkAll, check_eq_checkAll, Stmt.checkAll_append,
    Check.errors_bind_of_error hfirst, Check.result_bind_of_error hfirst, hfirst]

/-- Where the first part yields a table, the second part is checked from it, on the log of the
first. -/
lemma check_append_of_ok {t : SymbolTable} (h : (l.check o ⟨as, s⟩).2 = .ok t) :
    l.check o ⟨as ++ bs, s'⟩ =
      ((l.check o ⟨as, s⟩).1.addAll
        ((Stmt.checkAll o bs t).errors.map TypingError.diagnostic),
          (Stmt.checkAll o bs t).result) := by
  have hfirst : (Stmt.checkAll o as .empty).result = .ok t := by
    rwa [check_eq_checkAll] at h
  rw [check_eq_checkAll, check_eq_checkAll, Stmt.checkAll_append, Check.errors_bind_of_ok hfirst,
    Check.result_bind_of_ok hfirst, List.map_append, addAll_append]

end Log

/-- **Runs compose and only grow.**

Let statements be checked as a program, from any log and with any options, and cut them in two.

* If the first part ends at a violation, the whole has its outcome and its log.
* If the first part yields a table, the whole has the outcome of the second part from that table.
  The log holds what it held, what the first part reports on an empty log and what the second part
  reports, in this order.  The table of the first part stands unchanged at the front of the table
  of the whole, if there is one.
* What is reported and what the outcome is do not depend on what the log held. -/
theorem Log.check_append (as bs : List Stmt) (s s' : Span) (o : Options) (l : Log) :
    (∀ v, (l.check o ⟨as, s⟩).2 = .error v → l.check o ⟨as ++ bs, s'⟩ = l.check o ⟨as, s⟩) ∧
      (∀ t, (l.check o ⟨as, s⟩).2 = .ok t →
        (l.check o ⟨as ++ bs, s'⟩).2 = (Stmt.checkAll o bs t).result ∧
          (l.check o ⟨as ++ bs, s'⟩).1.entries =
            l.entries ++ (Log.empty.check o ⟨as, s⟩).1.entries ++
              (Stmt.checkAll o bs t).errors.map TypingError.diagnostic ∧
          ∀ u, (l.check o ⟨as ++ bs, s'⟩).2 = .ok u →
            t.entries <+: u.entries ∧ ∀ x b, t.find? x = some b → u.find? x = some b) ∧
      ∃ new, ∀ l' : Log, (l'.check o ⟨as ++ bs, s'⟩).1.entries = l'.entries ++ new ∧
        (l'.check o ⟨as ++ bs, s'⟩).2 = (l.check o ⟨as ++ bs, s'⟩).2 := by
  refine ⟨fun v h => check_append_of_error h, fun t h => ⟨?_, ?_, fun u hu => ?_⟩,
    (Stmt.checkAll o (as ++ bs) .empty).errors.map TypingError.diagnostic, fun l' => ⟨?_, ?_⟩⟩
  · rw [check_append_of_ok h]
  · have hfirst : (l.check o ⟨as, s⟩).1.entries =
        l.entries ++ (Log.empty.check o ⟨as, s⟩).1.entries := by
      rw [check_eq_checkAll, check_eq_checkAll, entries_addAll, entries_addAll]
      rfl
    rw [check_append_of_ok h, entries_addAll, hfirst]
  · rw [check_append_of_ok h] at hu
    have hgrows := Stmt.isPrefix_checkAll hu
    exact ⟨hgrows, fun x b => SymbolTable.find?_of_isPrefix hgrows⟩
  · rw [check_eq_checkAll, entries_addAll]
  · rw [check_eq_checkAll, check_eq_checkAll]

/-- Statements that use `y` and then declare it. -/
def usesThenDeclares : List Stmt := [
  .assign ⟨⟨"x", .ofLine 1⟩, .term (.name ⟨"y", .ofLine 1⟩), .ofLine 1⟩,
  .decl ⟨⟨"y", .ofLine 2⟩, ⟨.int, .ofLine 2⟩, none, .ofLine 2⟩]

/-- Statements that assign a truth value to `y` and then come to a malformed node. -/
def assignsThenBreaks : List Stmt := [
  .assign ⟨⟨"y", .ofLine 3⟩, .term (.bool ⟨true, .ofLine 3⟩), .ofLine 3⟩,
  .print (.binary (.term (.int ⟨1, .ofLine 4⟩)) [] (.term (.int ⟨2, .ofLine 4⟩)) (.ofLine 4))
    (.ofLine 4)]

/-- A log with a report that an earlier run may have left. -/
def earlierReport : Log := Log.empty.add (TypingError.unknownName ⟨"w", .ofLine 9⟩).diagnostic

/-- In one order each part reports an error and the second ends the run; in the other order the run
ends before the part that could report is reached. -/
theorem Log.check_append_two_orders :
    (∃ t, (earlierReport.check {} ⟨usesThenDeclares, .ofLine 1⟩).2 = .ok t) ∧
      (earlierReport.check {} ⟨usesThenDeclares ++ assignsThenBreaks, .ofLine 1⟩).2 =
        .error (.operatorChain (.ofLine 4) 0) ∧
      (earlierReport.check {} ⟨usesThenDeclares ++ assignsThenBreaks, .ofLine 1⟩).1.entries =
        [(TypingError.unknownName ⟨"w", .ofLine 9⟩).diagnostic,
          (TypingError.unknownName ⟨"y", .ofLine 1⟩).diagnostic,
          (TypingError.assignment (.ofLine 3) ⟨"y", .ofLine 3⟩ .int "true" .bool).diagnostic] ∧
      (earlierReport.check {} ⟨assignsThenBreaks, .ofLine 3⟩).2 =
        .error (.operatorChain (.ofLine 4) 0) ∧
      earlierReport.check {} ⟨assignsThenBreaks ++ usesThenDeclares, .ofLine 3⟩ =
        earlierReport.check {} ⟨assignsThenBreaks, .ofLine 3⟩ := by
  have hbreaks : (earlierReport.check {} ⟨assignsThenBreaks, .ofLine 3⟩).2 =
      .error (.operatorChain (.ofLine 4) 0) := rfl
  obtain ⟨hresult, hentries, -⟩ := (Log.check_append usesThenDeclares assignsThenBreaks
    (.ofLine 1) (.ofLine 1) {} earlierReport).2.1 _ rfl
  have hsame := (Log.check_append assignsThenBreaks usesThenDeclares
    (.ofLine 3) (.ofLine 3) {} earlierReport).1 _ hbreaks
  exact ⟨⟨_, rfl⟩, hresult.trans rfl, hentries.trans rfl, hbreaks, hsame⟩

end ScriptTyping
