import ScriptTyping.Proofs.Typing.Composition
import ScriptTyping.Proofs.Typing.Structure

/-!
# Conditionals and initializers as plain statements

A program can be written without bodies and without initializers: print the condition in place of
the conditional and let the body follow, declare first and assign afterwards.  `Program.flatten` is
that program.  Unless conditions are asked to be truth values, it is checked with the same outcome,
which says that a body has no scope of its own and that an initializer is nothing but an assignment.

Flattening keeps the traversal: the visits of the flat program are those of the nested one, with
each replaced by its plain counterpart (`Stmt.visitsAll_flattenAll`).  So the comparison is made
visit by visit (`Visit.check_flatten`), from whatever table the run has come to, and it does not
matter whether a run ends at a violation.
-/

namespace ScriptTyping

/-! ## Flat statements -/

/-- The declaration by itself, and then its initializer as an assignment. -/
def Decl.flatten (d : Decl) : List Stmt :=
  .decl { d with init := none } :: (d.init.map Stmt.assign).toList

mutual

/-- The statements that stand for a statement: a conditional gives way to a print statement with its
condition, followed by what stands for its body. -/
def Stmt.flatten : Stmt → List Stmt
  | .decl d => d.flatten
  | .assign a => [.assign a]
  | .ifThen condition body span => .print condition span :: Stmt.flattenAll body
  | .print e span => [.print e span]

/-- The statements that stand for a list of statements. -/
def Stmt.flattenAll : List Stmt → List Stmt
  | [] => []
  | s :: rest => s.flatten ++ Stmt.flattenAll rest

end

/-- The program without bodies and initializers. -/
def Program.flatten (p : Program) : Program := ⟨Stmt.flattenAll p.stmts, p.span⟩

/-- The statement has neither a body nor an initializer. -/
def Stmt.IsFlat : Stmt → Prop
  | .decl d => d.init = none
  | .assign _ | .print _ _ => True
  | .ifThen _ _ _ => False

lemma Decl.isFlat_of_mem_flatten {d : Decl} {s : Stmt} (h : s ∈ d.flatten) : s.IsFlat := by
  rcases List.mem_cons.1 h with rfl | hinit
  · rfl
  · obtain ⟨a, -, rfl⟩ := Option.map_eq_some_iff.1 (Option.mem_toList.1 hinit)
    trivial

lemma Stmt.isFlat_of_mem_flattenAll (ss : List Stmt) : ∀ s ∈ Stmt.flattenAll ss, s.IsFlat := by
  induction ss using Stmt.listInduction with
  | nil => exact List.forall_mem_nil _
  | decl d rest ih =>
      rw [flattenAll, flatten, List.forall_mem_append]
      exact ⟨fun s => Decl.isFlat_of_mem_flatten, ih⟩
  | assign a rest ih =>
      rw [flattenAll, flatten, List.forall_mem_append]
      exact ⟨List.forall_mem_singleton.2 trivial, ih⟩
  | ifThen e body span rest ihBody ih =>
      rw [flattenAll, flatten, List.forall_mem_append, List.forall_mem_cons]
      exact ⟨⟨trivial, ihBody⟩, ih⟩
  | print e span rest ih =>
      rw [flattenAll, flatten, List.forall_mem_append]
      exact ⟨List.forall_mem_singleton.2 trivial, ih⟩

/-! ## The traversal of a flat program -/

/-- The plain counterpart of a visit. -/
def Visit.flatten : Visit → Visit
  | declare d => declare { d with init := none }
  | initializer _ a | assign a => assign a
  | condition e | print e => print e

lemma Decl.visitsAll_flatten (d : Decl) :
    Stmt.visitsAll d.flatten = d.visits.map Visit.flatten := by
  cases h : d.init with
  | none => simp [flatten, visits, h, Stmt.visitsAll, Stmt.visits, Visit.flatten]
  | some a => simp [flatten, visits, h, Stmt.visitsAll, Stmt.visits, Visit.flatten]

/-- **Flattening keeps the traversal.** -/
lemma Stmt.visitsAll_flattenAll (ss : List Stmt) :
    Stmt.visitsAll (Stmt.flattenAll ss) = (Stmt.visitsAll ss).map Visit.flatten := by
  induction ss using Stmt.listInduction with
  | nil => rfl
  | decl d rest ih =>
      rw [flattenAll, flatten, visitsAll_append, d.visitsAll_flatten, ih, visitsAll, visits,
        List.map_append]
  | assign a rest ih =>
      rw [flattenAll, flatten, List.singleton_append, visitsAll, visits, ih, visitsAll, visits]
      rfl
  | ifThen e body span rest ihBody ih =>
      rw [flattenAll, flatten, List.cons_append, visitsAll, visitsAll_append, ihBody, ih,
        ← List.map_append]
      rfl
  | print e span rest ih =>
      rw [flattenAll, flatten, List.singleton_append, visitsAll, visits, ih, visitsAll, visits]
      rfl

/-! ## Checking a flat program -/

/-- **A visit and its plain counterpart have the same outcome**, trace included. -/
lemma Visit.check_flatten {v : Visit} (hv : v.Targeted) (t : SymbolTable) :
    v.flatten.check ⟨false⟩ t = v.check ⟨false⟩ t := by
  cases v with
  | declare d => rfl
  | initializer d a =>
      have htarget : a.name.text = d.name.text := hv
      rw [flatten, check, check, if_pos htarget]
  | assign a => rfl
  | condition e =>
      -- A lenient run asks nothing of a condition once it has its type.
      have hcond : ∀ ty, Options.checkCondition ⟨false⟩ e ty = pure () := fun ty => rfl
      simp only [flatten, check, hcond, pure_bind]
  | print e => rfl

lemma Visit.run_flatten {vs : List Visit} (hvs : ∀ v ∈ vs, v.Targeted) (t : SymbolTable) :
    run ⟨false⟩ (vs.map flatten) t = run ⟨false⟩ vs t := by
  induction vs generalizing t with
  | nil => rfl
  | cons v vs ih =>
      have hv : v.Targeted := hvs v List.mem_cons_self
      have hrest : ∀ w ∈ vs, w.Targeted := fun w hw => hvs w (List.mem_cons_of_mem v hw)
      rw [List.map_cons, run_cons, run_cons, check_flatten hv]
      exact bind_congr (ih hrest)

/-- Statements and what stands for them are checked with the same outcome, from every table. -/
lemma Stmt.checkAll_flattenAll {ss : List Stmt} (hss : ∀ v ∈ Stmt.visitsAll ss, v.Targeted)
    (t : SymbolTable) :
    Stmt.checkAll ⟨false⟩ (Stmt.flattenAll ss) t = Stmt.checkAll ⟨false⟩ ss t := by
  rw [checkAll_eq_run, visitsAll_flattenAll, Visit.run_flatten hss, checkAll_eq_run]

/-! ## The violation that is left -/

lemma Expr.initializer_notMem_nodes (e : Expr) (declared target : Name) :
    .initializer declared target ∉ e.nodes := by
  induction e with
  | term _ => simp [nodes]
  | binary lhs ops rhs span ihl ihr => simp [nodes, ihl, ihr]
  | paren inner span ih => exact ih

/-- Only the visit of an initializer comes upon the target of one. -/
lemma Visit.initializer_mem_nodes {v : Visit} {declared target : Name}
    (h : .initializer declared target ∈ v.nodes) :
    ∃ d a, v = .initializer d a ∧ declared = d.name ∧ target = a.name := by
  cases v with
  | declare d => cases h
  | initializer d a =>
      rcases List.mem_cons.1 h with hnode | hexpr
      · obtain ⟨hdeclared, htarget⟩ := Node.initializer.inj hnode
        exact ⟨d, a, rfl, hdeclared, htarget⟩
      · exact absurd hexpr (a.expr.initializer_notMem_nodes _ _)
  | assign a => exact absurd h (a.expr.initializer_notMem_nodes _ _)
  | condition e | print e => exact absurd h (e.initializer_notMem_nodes _ _)

/-- Where every initializer assigns to the declared name, a run can only end at a binary node. -/
lemma Log.check_eq_operatorChain {l : Log} {o : Options} {p : Program} {v : Violation}
    (hp : ∀ w ∈ p.visits, w.Targeted) (h : (l.check o p).2 = .error v) :
    ∃ span count, v = .operatorChain span count := by
  obtain ⟨before, n, after, hnodes, -, hn, rfl⟩ := (l.check_eq_error_iff o p v).1 h
  cases n with
  | binary ops span => exact ⟨span, ops.length, rfl⟩
  | initializer declared target =>
      have hmem : .initializer declared target ∈ p.nodes := by
        rw [hnodes]
        exact List.mem_append_right before List.mem_cons_self
      obtain ⟨w, hw, hnode⟩ := List.mem_flatMap.1 hmem
      obtain ⟨d, a, rfl, rfl, rfl⟩ := Visit.initializer_mem_nodes hnode
      exact absurd (hp _ hw) hn

/-- **Flattening preserves the check.**

Take a program in which every initializer assigns to the declared name, and check it without strict
conditions on any log.  The program without bodies and initializers gives the same log and the same
outcome, which is the same table or the same violation of a binary node.  This holds of the
statements from every table, and the trace of their run is the same too. -/
theorem Log.check_flattened (p : Program)
    (hp : ∀ d a, .initializer d a ∈ p.visits → a.name.text = d.name.text) (l : Log) :
    (∀ s ∈ p.flatten.stmts, s.IsFlat) ∧
      l.check ⟨false⟩ p.flatten = l.check ⟨false⟩ p ∧
      (∀ v, (l.check ⟨false⟩ p).2 = .error v → ∃ span count, v = .operatorChain span count) ∧
      ∀ t, Stmt.checkAll ⟨false⟩ p.flatten.stmts t = Stmt.checkAll ⟨false⟩ p.stmts t := by
  have htargeted : ∀ v ∈ p.visits, v.Targeted := by
    intro v hv
    cases v with
    | initializer d a => exact hp d a hv
    | declare _ | assign _ | condition _ | print _ => trivial
  have hcheckAll := Stmt.checkAll_flattenAll htargeted
  have hcheck : l.check ⟨false⟩ ⟨Stmt.flattenAll p.stmts, p.span⟩ =
      l.check ⟨false⟩ ⟨p.stmts, p.span⟩ := by
    rw [check_eq_checkAll, check_eq_checkAll, hcheckAll]
  exact ⟨Stmt.isFlat_of_mem_flattenAll p.stmts, hcheck,
    fun v => check_eq_operatorChain htargeted, hcheckAll⟩

/-- A program with conditionals around declarations, an assignment and a print statement.  The
initializer of `a` is of the wrong type, `b` is unknown, and the last node has two operators. -/
def nested : Program where
  stmts := [
    .ifThen (.term (.int ⟨1, .ofLine 1⟩)) [
      .decl ⟨⟨"a", .ofLine 2⟩, ⟨.int, .ofLine 2⟩, some ⟨⟨"a", .ofLine 2⟩,
        .term (.bool ⟨true, .ofLine 2⟩), .ofLine 2⟩, .ofLine 2⟩,
      .ifThen (.term (.name ⟨"b", .ofLine 3⟩)) [
        .assign ⟨⟨"c", .ofLine 4⟩, .term (.name ⟨"a", .ofLine 4⟩), .ofLine 4⟩] (.ofLine 3)]
      (.ofLine 1),
    .print (.binary (.term (.name ⟨"c", .ofLine 5⟩)) [⟨.add, .ofLine 5⟩, ⟨.add, .ofLine 5⟩]
      (.term (.int ⟨1, .ofLine 5⟩)) (.ofLine 5)) (.ofLine 5)]
  span := .ofLine 1

theorem Log.check_flattened_nested :
    (∀ d a, .initializer d a ∈ nested.visits → a.name.text = d.name.text) ∧
      nested.flatten.stmts.length = 6 ∧
      (Log.empty.check ⟨false⟩ nested.flatten).2 = .error (.operatorChain (.ofLine 5) 2) ∧
      (Log.empty.check ⟨false⟩ nested.flatten).1.entries =
        [(TypingError.assignment (.ofLine 2) ⟨"a", .ofLine 2⟩ .int "true" .bool).diagnostic,
          (TypingError.unknownName ⟨"b", .ofLine 3⟩).diagnostic] := by
  have htargets : ∀ d a, .initializer d a ∈ nested.visits → a.name.text = d.name.text := by
    intro d a h
    obtain ⟨rfl, rfl⟩ : d = _ ∧ a = _ := by
      simpa [nested, Program.visits, Stmt.visitsAll, Stmt.visits, Decl.visits] using h
    rfl
  obtain ⟨-, hsame, -⟩ := Log.check_flattened nested htargets .empty
  rw [hsame]
  exact ⟨htargets, rfl, rfl, rfl⟩

end ScriptTyping
