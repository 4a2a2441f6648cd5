import ScriptTyping.Proofs.Typing.Rules

/-!
# Malformed trees

Two forms of a tree have no typing rule: a binary node with other than one operator, and a
declaration whose initializer assigns to another variable.  The checker meets them in the middle of
its work and gives up at the first, whatever it has found out about types by then.

This file states the same as a property of the tree.  `Program.nodes` lists the nodes that can be
malformed in the order in which a traversal reaches them: a binary node before its operands, the
left operand before the right one, the target of an initializer before its expression.  No table,
type or option occurs in it.

* `Expr.violation?_typeOf` and `Visit.violation?_run` compute the violation of a run from that list
  alone.  The argument is `Check.violation?_bind`: each part of a run ends the same way whatever
  type or table the parts before it have come up with.
* `Log.check_error_iff_first_malformed` is the result for whole programs.
* `Visit.exists_yields_iff` is its other side, used throughout: a run over a well-formed tree yields
  a table.
-/

namespace ScriptTyping

/-! ## Nodes that can be malformed -/

/-- A node of a tree that can be malformed. -/
inductive Node where
  /-- A binary node, with its operators and its place. -/
  | binary (ops : List (Spanned Operator)) (span : Span)
  /-- An initializer, with the name declared and the name assigned. -/
  | initializer (declared target : Name)

namespace Node

/-- A binary node has one operator, and an initializer assigns to the declared name. -/
def WellFormed : Node → Prop
  | binary ops _ => ops.length = 1
  | initializer declared target => target.text = declared.text

instance : DecidablePred WellFormed
  | binary ops _ => inferInstanceAs (Decidable (ops.length = 1))
  | initializer declared target => inferInstanceAs (Decidable (target.text = declared.text))

/-- What is wrong with a node that is malformed. -/
def violation : Node → Violation
  | binary ops span => .operatorChain span ops.length
  | initializer declared target => .initializerTarget declared target

/-- What is wrong with a node, if anything is. -/
def violation? (n : Node) : Option Violation := if n.WellFormed then none else some n.violation

lemma violation?_eq_none_iff {n : Node} : n.violation? = none ↔ n.WellFormed := by
  by_cases h : n.WellFormed <;> simp [violation?, h]

lemma violation?_eq_some_iff {n : Node} {v : Violation} :
    n.violation? = some v ↔ ¬ n.WellFormed ∧ v = n.violation := by
  by_cases h : n.WellFormed <;> simp [violation?, h, eq_comm]

/-- The violation of the first node of a list that is malformed. -/
def FirstViolation (ns : List Node) (v : Violation) : Prop :=
  ∃ before n after, ns = before ++ n :: after ∧
    (∀ m ∈ before, m.WellFormed) ∧ ¬ n.WellFormed ∧ v = n.violation

lemma findSome?_eq_some_iff {ns : List Node} {v : Violation} :
    ns.findSome? violation? = some v ↔ FirstViolation ns v := by
  rw [List.findSome?_eq_some_iff]
  constructor
  · rintro ⟨before, n, after, hns, hn, hbefore⟩
    exact ⟨before, n, after, hns, fun m hm => violation?_eq_none_iff.1 (hbefore m hm),
      violation?_eq_some_iff.1 hn⟩
  · rintro ⟨before, n, after, hns, hbefore, hn⟩
    exact ⟨before, n, after, hns, violation?_eq_some_iff.2 hn,
      fun m hm => violation?_eq_none_iff.2 (hbefore m hm)⟩

lemma exists_firstViolation_iff {ns : List Node} :
    (∃ v, FirstViolation ns v) ↔ ∃ n ∈ ns, ¬ n.WellFormed := by
  simp only [← findSome?_eq_some_iff]
  rw [← Option.isSome_iff_exists, List.findSome?_isSome_iff]
  simp only [Option.isSome_iff_ne_none, ne_eq, violation?_eq_none_iff]

/-- A chain of one operator is no violation. -/
lemma FirstViolation.ne_single {ns : List Node} {span : Span} :
    ¬ FirstViolation ns (.operatorChain span 1) := by
  rintro ⟨before, n, after, -, -, hn, hv⟩
  cases n with
  | binary ops s =>
      have hcount : 1 = ops.length := (Violation.operatorChain.inj hv).2
      exact hn hcount.symm
  | initializer declared target => cases hv

end Node

/-- The nodes of an expression that can be malformed, from the root down and from left to right. -/
def Expr.nodes : Expr → List Node
  | .term _ => []
  | .binary lhs ops rhs span => .binary ops span :: (lhs.nodes ++ rhs.nodes)
  | .paren inner _ => inner.nodes

/-- An expression is well-formed if all its binary nodes have exactly one operator. -/
def Expr.WellFormed (e : Expr) : Prop := ∀ n ∈ e.nodes, n.WellFormed

instance (e : Expr) : Decidable e.WellFormed :=
  inferInstanceAs (Decidable (∀ n ∈ e.nodes, n.WellFormed))

lemma Expr.wellFormed_binary_iff {lhs rhs : Expr} {ops : List (Spanned Operator)} {span : Span} :
    (Expr.binary lhs ops rhs span).WellFormed ↔
      (∃ op, ops = [op]) ∧ lhs.WellFormed ∧ rhs.WellFormed := by
  simp [WellFormed, nodes, Node.WellFormed, or_imp, forall_and, List.length_eq_one_iff]

/-- The nodes that a visit reaches. -/
def Visit.nodes : Visit → List Node
  | declare _ => []
  | initializer d a => .initializer d.name a.name :: a.expr.nodes
  | assign a => a.expr.nodes
  | condition e | print e => e.nodes

/-- The nodes of a program that can be malformed, in the order of its traversal. -/
def Program.nodes (p : Program) : List Node := p.visits.flatMap Visit.nodes

/-- A program is well-formed if all its nodes are. -/
def Program.WellFormed (p : Program) : Prop := ∀ n ∈ p.nodes, n.WellFormed

instance (p : Program) : Decidable p.WellFormed :=
  inferInstanceAs (Decidable (∀ n ∈ p.nodes, n.WellFormed))

/-! ## Where a run ends -/

lemma Operator.violation?_typeOf (span : Span) (op : Operator) (l r : Ty) :
    (op.typeOf span l r).violation? = none :=
  Check.exists_yields_iff.1 ⟨_, _, typeOf_yields_iff.2 ⟨rfl, rfl⟩⟩

lemma Term.violation?_typeOf (t : SymbolTable) (tm : Term) : (tm.typeOf t).violation? = none := by
  cases tm with
  | name n =>
      cases h : t.lookup n.text with
      | none =>
          simp only [typeOf, Name.typeOf, h]
          exact Check.violation?_bind fun _ => Check.violation?_pure
      | some ty => simp only [typeOf, Name.typeOf, h, Check.violation?_pure]
  | int _ | string _ | bool _ => rfl

/-- Whatever the table, an expression ends a run at the first of its nodes that is malformed. -/
lemma Expr.violation?_typeOf (t : SymbolTable) (e : Expr) :
    (e.typeOf t).violation? = e.nodes.findSome? Node.violation? := by
  -- The trace event at the end of every case is no ending.
  have hnote : ∀ {e' : Expr} {c : Check Ty},
      (c >>= fun ty => Check.trace (.typed e' ty) >>= fun _ => pure ty).violation? =
        c.violation? := fun {e' c} => by
    rw [Check.violation?_bind (w := none) fun ty => Check.violation?_bind fun _ => rfl]
    exact Option.or_none
  induction e with
  | term tm =>
      rw [typeOf, hnote]
      exact tm.violation?_typeOf t
  | paren inner span ih =>
      rw [typeOf, hnote]
      exact ih
  | binary lhs ops rhs span ihl ihr =>
      rw [nodes, List.findSome?_cons, List.findSome?_append]
      rcases ops with _ | ⟨op, _ | ⟨op', ops⟩⟩
      · rfl
      · have hop : ∀ l r, (op.value.typeOf span l r >>= fun ty =>
            Check.trace (.typed (.binary lhs [op] rhs span) ty) >>= fun _ => pure ty).violation? =
              none := fun l r => by
          rw [hnote, Operator.violation?_typeOf]
        have hrhs : ∀ l, (rhs.typeOf t >>= fun r => op.value.typeOf span l r >>= fun ty =>
            Check.trace (.typed (.binary lhs [op] rhs span) ty) >>= fun _ => pure ty).violation? =
              rhs.nodes.findSome? Node.violation? := fun l => by
          rw [Check.violation?_bind (hop l), ihr, Option.or_none]
        rw [typeOf, ← ihl]
        exact Check.violation?_bind hrhs
      · simp [typeOf, singleOperator?, Node.violation?, Node.WellFormed, Node.violation]

/-- A well-formed expression is given a type, under every table. -/
lemma Expr.WellFormed.exists_yields {e : Expr} (he : e.WellFormed) (t : SymbolTable) :
    ∃ es ty, (e.typeOf t).Yields es ty := by
  rw [Check.exists_yields_iff, violation?_typeOf, List.findSome?_eq_none_iff]
  exact fun n hn => Node.violation?_eq_none_iff.2 (he n hn)

namespace Visit

variable (o : Options) (t : SymbolTable)

lemma violation?_assign (a : Assignment) :
    (a.check t).violation? = a.expr.nodes.findSome? Node.violation? := by
  have hsettle : ∀ ty, (a.settle t ty).violation? = none := fun ty =>
    Check.exists_yields_iff.1 ⟨_, _, Assignment.settle_yields_iff.2 ⟨rfl, rfl⟩⟩
  rw [Assignment.check, Check.violation?_bind hsettle, Expr.violation?_typeOf, Option.or_none]

lemma violation?_check (v : Visit) :
    (v.check o t).violation? = v.nodes.findSome? Node.violation? := by
  cases v with
  | declare d => exact Check.exists_yields_iff.1 ⟨_, _, declare_yields_iff.2 ⟨rfl, rfl⟩⟩
  | initializer d a =>
      rw [nodes, List.findSome?_cons, check]
      by_cases h : a.name.text = d.name.text
      · have hnode : (Node.initializer d.name a.name).WellFormed := h
        rw [if_pos h, Node.violation?_eq_none_iff.2 hnode]
        exact violation?_assign t a
      · have hnode : ¬ (Node.initializer d.name a.name).WellFormed := h
        rw [if_neg h, Node.violation?_eq_some_iff.2 ⟨hnode, rfl⟩]
        rfl
  | assign a => exact violation?_assign t a
  | condition e =>
      have hcond : ∀ ty, (o.checkCondition e ty >>= fun _ => pure t).violation? = none := by
        intro ty
        rw [Check.violation?_bind (w := none) fun _ => rfl, Option.or_none]
        exact Check.exists_yields_iff.1 ⟨_, (), Options.checkCondition_yields_iff.2 rfl⟩
      rw [check, Check.violation?_bind hcond, Expr.violation?_typeOf, Option.or_none]
      rfl
  | print e =>
      rw [check, Check.violation?_bind (w := none) fun _ => rfl, Expr.violation?_typeOf,
        Option.or_none]
      rfl

/-- Whatever the table and the options, a run ends at the first malformed node that its visits
reach. -/
lemma violation?_run (vs : List Visit) :
    (run o vs t).violation? = (vs.flatMap nodes).findSome? Node.violation? := by
  induction vs generalizing t with
  | nil => rfl
  | cons v vs ih =>
      rw [run_cons, Check.violation?_bind ih, violation?_check, List.flatMap_cons,
        List.findSome?_append]

lemma result_run_eq_error_iff (vs : List Visit) (w : Violation) :
    (run o vs t).result = .error w ↔ Node.FirstViolation (vs.flatMap nodes) w := by
  rw [Check.result_eq_error_iff, violation?_run, Node.findSome?_eq_some_iff]

/-- A run yields a table exactly if its visits reach no malformed node. -/
lemma exists_yields_iff (vs : List Visit) :
    (∃ es u, (run o vs t).Yields es u) ↔ ∀ n ∈ vs.flatMap nodes, n.WellFormed := by
  rw [Check.exists_yields_iff, violation?_run, List.findSome?_eq_none_iff]
  exact forall₂_congr fun n _ => Node.violation?_eq_none_iff

end Visit

/-- A run over a well-formed program yields a table. -/
lemma Program.WellFormed.exists_yields {p : Program} (hp : p.WellFormed) (o : Options)
    (t : SymbolTable) : ∃ es u, (Visit.run o p.visits t).Yields es u :=
  (Visit.exists_yields_iff o t p.visits).2 hp

/-- The violation of a run over statements is that of the first malformed node, from every table
and with any options. -/
lemma Stmt.checkAll_eq_error_iff (o : Options) (ss : List Stmt) (t : SymbolTable) (v : Violation) :
    (Stmt.checkAll o ss t).result = .error v ↔
      Node.FirstViolation ((Stmt.visitsAll ss).flatMap Visit.nodes) v := by
  rw [checkAll_eq_run, Visit.result_run_eq_error_iff]

lemma Log.check_eq_error_iff (l : Log) (o : Options) (p : Program) (v : Violation) :
    (l.check o p).2 = .error v ↔ Node.FirstViolation p.nodes v := by
  rw [Log.result_check, Visit.result_run_eq_error_iff, Program.nodes]

/-- **The first malformed node ends a run, and nothing else does.**

Checking a program on any log, with any options, ends at a violation exactly if the program has a
malformed node, and the violation is that of the first one in the order of `Program.nodes`.  Neither
the log nor the options nor the table at the start have a part in it, and a binary node with a
single operator is never what is reported. -/
theorem Log.check_error_iff_first_malformed (l : Log) (o : Options) (p : Program) :
    ((∃ v, (l.check o p).2 = .error v) ↔ ∃ n ∈ p.nodes, ¬ n.WellFormed) ∧
      (∀ v, (l.check o p).2 = .error v ↔ Node.FirstViolation p.nodes v) ∧
      (∀ (l' : Log) o' v, (l'.check o' p).2 = .error v ↔ (l.check o p).2 = .error v) ∧
      (∀ o' t v, (Stmt.checkAll o' p.stmts t).result = .error v ↔ (l.check o p).2 = .error v) ∧
      ∀ span, (l.check o p).2 ≠ .error (.operatorChain span 1) := by
  have hlog : ∀ (l' : Log) o' v, (l'.check o' p).2 = .error v ↔ Node.FirstViolation p.nodes v :=
    fun l' o' v => l'.check_eq_error_iff o' p v
  have htable : ∀ o' t v,
      (Stmt.checkAll o' p.stmts t).result = .error v ↔ Node.FirstViolation p.nodes v :=
    fun o' t v => Stmt.checkAll_eq_error_iff o' p.stmts t v
  refine ⟨?_, hlog l o, ?_, ?_, ?_⟩
  · rw [← Node.exists_firstViolation_iff]
    exact exists_congr (hlog l o)
  · exact fun l' o' v => (hlog l' o' v).trans (hlog l o v).symm
  · exact fun o' t v => (htable o' t v).trans (hlog l o v).symm
  · exact fun span hspan => Node.FirstViolation.ne_single ((hlog l o _).1 hspan)

end ScriptTyping
