import ScriptTyping.Proofs.Typing.Justification
import ScriptTyping.Proofs.Typing.Provenance
import ScriptTyping.Proofs.Typing.Trace

/-!
# Where an expression loses its type

A fault inside of an expression is reported once, and the expressions around it are spared.  They
have the unknown type from there on, which agrees with everything, until a comparison makes a truth
value of it.  Only a comparison that is at fault itself has the unknown type.

So the unknown type comes down to the root along a *spine*: through parentheses and through the
operands of arithmetic, but not through comparisons.  An *origin* is what can start it: a name that
is not bound or is bound without a type, or a binary node that reports its operands.  An expression
has the unknown type exactly if there is an origin on its spine (`Expr.eq_unknown_iff_hasOrigin`).

Which node makes a report is read off the run.  `Expr.ownErrors` is what is left of the reports of a
node when those of its parts are taken away, and the reports of an expression are these, node by
node (`Expr.errors_eq_ownErrors`).

Main statement: `Expr.typeOf_loses_type_along_spine`.
-/

namespace ScriptTyping

/-! ## Nodes and their reports -/

namespace Expr

/-- The parts that an expression is put together from. -/
def parts : Expr → List Expr
  | .term _ => []
  | .binary lhs _ rhs _ => [lhs, rhs]
  | .paren inner _ => [inner]

/-- What the root of an expression reports itself, after all that its parts report. -/
def ownErrors (t : SymbolTable) (e : Expr) : List TypingError :=
  (e.typeOf t).errors.drop (e.parts.flatMap fun part => (part.typeOf t).errors).length

/-- The root of the expression reports that its operands have different types. -/
def Mismatched (t : SymbolTable) (e : Expr) : Prop :=
  ∃ span a b, .operands span a b ∈ e.ownErrors t

/-- The nodes that are reached from the root through parentheses and through the operands of binary
nodes other than comparisons. -/
def spine : Expr → List Expr
  | .term t => [.term t]
  | .binary lhs ops rhs span =>
    .binary lhs ops rhs span ::
      if ops.any (·.value.isComparison) then [] else lhs.spine ++ rhs.spine
  | .paren inner span => .paren inner span :: inner.spine

/-- The unknown type can start here: at a name that is not bound or is bound without a type, or at a
binary node that reports its operands. -/
def IsOrigin (t : SymbolTable) : Expr → Prop
  | .term (.name n) => t.lookup n.text = none ∨ t.lookup n.text = some .unknown
  | .term _ | .paren _ _ => False
  | .binary lhs ops rhs span => (Expr.binary lhs ops rhs span).Mismatched t

/-- There is an origin on the spine of the expression. -/
def HasOrigin (t : SymbolTable) (e : Expr) : Prop := ∃ n ∈ e.spine, n.IsOrigin t

/-- The operators of an expression, from left to right. -/
def operators : Expr → List Operator
  | .term _ => []
  | .binary lhs ops rhs _ => lhs.operators ++ ops.map (·.value) ++ rhs.operators
  | .paren inner _ => inner.operators

/-- The names and literals of an expression, from left to right. -/
def leaves : Expr → List Term
  | .term tm => [tm]
  | .binary lhs _ rhs _ => lhs.leaves ++ rhs.leaves
  | .paren inner _ => inner.leaves

end Expr

/-- The type of a name or literal, if it is known. -/
def Term.knownTy? (t : SymbolTable) : Term → Option BaseTy
  | .name n => t.get? n.text
  | tm => tm.literalTy?

section

variable {t : SymbolTable} {e lhs rhs inner : Expr} {op : Spanned Operator}
  {ops : List (Spanned Operator)} {span : Span} {es es₁ es₂ : List TypingError} {ty l r : Ty}

namespace Expr

/-- What holds of an expression and passes on to parts holds of all nodes. -/
lemma forall_mem_postorder {P : Expr → Prop} (hparts : ∀ e, P e → ∀ part ∈ e.parts, P part)
    (he : P e) : ∀ n ∈ e.postorder, P n := by
  induction e with
  | term tm => simpa [postorder] using he
  | paren inner span ih =>
      have hinner := ih (hparts _ he inner (by simp [parts]))
      simpa [postorder, or_imp, forall_and, he] using hinner
  | binary lhs ops rhs span ihl ihr =>
      have hlhs := ihl (hparts _ he lhs (by simp [parts]))
      have hrhs := ihr (hparts _ he rhs (by simp [parts]))
      simpa [postorder, or_imp, forall_and, he] using And.intro hlhs hrhs

lemma WellFormed.of_mem_parts (he : e.WellFormed) : ∀ part ∈ e.parts, part.WellFormed := by
  cases e with
  | term tm => simp [parts]
  | paren inner span =>
      have hinner : inner.WellFormed := he
      simpa [parts] using hinner
  | binary lhs ops rhs span => simpa [parts] using (wellFormed_binary_iff.1 he).2

/-- The operands of a well-formed binary node are given types. -/
lemma WellFormed.exists_operands (he : (Expr.binary lhs ops rhs span).WellFormed)
    (t : SymbolTable) : ∃ op es₁ l es₂ r, ops = [op] ∧ (lhs.typeOf t).Yields es₁ l ∧
      (rhs.typeOf t).Yields es₂ r := by
  obtain ⟨⟨op, hop⟩, hlhs, hrhs⟩ := wellFormed_binary_iff.1 he
  obtain ⟨es₁, l, hl⟩ := hlhs.exists_yields t
  obtain ⟨es₂, r, hr⟩ := hrhs.exists_yields t
  exact ⟨op, es₁, l, es₂, r, hop, hl, hr⟩

lemma errors_binary (hl : (lhs.typeOf t).Yields es₁ l) (hr : (rhs.typeOf t).Yields es₂ r) :
    (typeOf t (.binary lhs [op] rhs span)).errors = es₁ ++ es₂ ++ operandReports span l r := by
  have hbinary : (typeOf t (.binary lhs [op] rhs span)).Yields
      (es₁ ++ es₂ ++ operandReports span l r) (op.value.result l r) :=
    yields_binary_iff.2 ⟨op, es₁, l, es₂, r, rfl, hl, hr, rfl, rfl⟩
  exact hbinary.1

lemma errors_paren (h : (inner.typeOf t).Yields es ty) :
    (typeOf t (.paren inner span)).errors = es := by
  have hparen : (typeOf t (.paren inner span)).Yields es ty := yields_paren_iff.2 h
  exact hparen.1

/-- What a binary node reports itself is decided by the types of its operands. -/
lemma ownErrors_binary (hl : (lhs.typeOf t).Yields es₁ l) (hr : (rhs.typeOf t).Yields es₂ r) :
    (Expr.binary lhs [op] rhs span).ownErrors t = operandReports span l r := by
  simp [ownErrors, parts, errors_binary hl hr, hl.1, hr.1]

lemma mismatched_binary_iff (hl : (lhs.typeOf t).Yields es₁ l)
    (hr : (rhs.typeOf t).Yields es₂ r) :
    (Expr.binary lhs [op] rhs span).Mismatched t ↔
      ∃ a b, l = .base a ∧ r = .base b ∧ a ≠ b := by
  simp only [Mismatched, ownErrors_binary hl hr, mem_operandReports_iff]
  constructor
  · rintro ⟨_, _, _, a, b, ha, hb, hne, -⟩
    exact ⟨a, b, ha, hb, hne⟩
  · rintro ⟨a, b, ha, hb, hne⟩
    exact ⟨span, a, b, a, b, ha, hb, hne, rfl⟩

/-- **The reports of an expression are those of its nodes**, each after its parts. -/
lemma errors_eq_ownErrors (he : e.WellFormed) (t : SymbolTable) :
    (e.typeOf t).errors = e.postorder.flatMap (ownErrors t) := by
  induction e with
  | term tm => simp [postorder, ownErrors, parts]
  | paren inner span ih =>
      obtain ⟨es, ty, h⟩ := WellFormed.exists_yields (e := inner) he t
      have hown : (Expr.paren inner span).ownErrors t = [] := by
        simp [ownErrors, parts, errors_paren h, h.1]
      simp [postorder, hown, ← ih he, errors_paren h, h.1]
  | binary lhs ops rhs span ihl ihr =>
      obtain ⟨-, hlhs, hrhs⟩ := wellFormed_binary_iff.1 he
      obtain ⟨op, es₁, l, es₂, r, rfl, hl, hr⟩ := he.exists_operands t
      simp [postorder, ownErrors_binary hl hr, ← ihl hlhs, ← ihr hrhs, hl.1, hr.1,
        errors_binary hl hr]

end Expr

/-! ## The unknown type -/

/-- The result of an operator is unknown if its operands have different types, and, unless it is a
comparison, if one of them is unknown. -/
lemma Operator.result_eq_unknown_iff {op : Operator} : op.result l r = .unknown ↔
    (∃ a b, l = .base a ∧ r = .base b ∧ a ≠ b) ∨
      op.isComparison = false ∧ (l = .unknown ∨ r = .unknown) := by
  cases hop : op.isComparison <;> rcases l with a | _ <;> rcases r with b | _ <;>
    simp [result, hop]

namespace Expr

lemma hasOrigin_paren_iff : (Expr.paren inner span).HasOrigin t ↔ inner.HasOrigin t := by
  simp [HasOrigin, spine, IsOrigin]

lemma hasOrigin_binary_iff : (Expr.binary lhs [op] rhs span).HasOrigin t ↔
    (Expr.binary lhs [op] rhs span).Mismatched t ∨
      op.value.isComparison = false ∧ (lhs.HasOrigin t ∨ rhs.HasOrigin t) := by
  cases hop : op.value.isComparison <;>
    simp [HasOrigin, spine, IsOrigin, hop, or_and_right, exists_or]

/-- **An expression has the unknown type exactly if there is an origin on its spine.** -/
lemma eq_unknown_iff_hasOrigin (h : (e.typeOf t).Yields es ty) :
    ty = .unknown ↔ e.HasOrigin t := by
  induction e generalizing es ty with
  | term tm =>
      rcases tm.eq_name_or_literal with ⟨n, rfl⟩ | ⟨b, hb⟩
      · rcases yields_name_iff.1 h with ⟨hn, -⟩ | ⟨hn, -, rfl⟩
        · simp [HasOrigin, spine, IsOrigin, hn]
        · simp [HasOrigin, spine, IsOrigin, SymbolTable.lookup_eq_none_iff.2 hn]
      · obtain ⟨-, rfl⟩ := (yields_literal_iff hb).1 h
        cases tm <;> simp_all [HasOrigin, spine, IsOrigin, Term.literalTy?]
  | paren inner span ih =>
      rw [hasOrigin_paren_iff]
      exact ih (yields_paren_iff.1 h)
  | binary lhs ops rhs span ihl ihr =>
      obtain ⟨op, es₁, l, es₂, r, rfl, hl, hr, -, rfl⟩ := yields_binary_iff.1 h
      rw [hasOrigin_binary_iff, mismatched_binary_iff hl hr, Operator.result_eq_unknown_iff,
        ihl hl, ihr hr]

/-- **Errors do not cascade.** A binary node reports its operands only if neither of them has lost
its type. -/
lemma Mismatched.not_hasOrigin (he : (Expr.binary lhs ops rhs span).WellFormed)
    (h : (Expr.binary lhs ops rhs span).Mismatched t) : ¬ lhs.HasOrigin t ∧ ¬ rhs.HasOrigin t := by
  obtain ⟨op, es₁, l, es₂, r, rfl, hl, hr⟩ := he.exists_operands t
  obtain ⟨a, b, rfl, rfl, -⟩ := (mismatched_binary_iff hl hr).1 h
  rw [← eq_unknown_iff_hasOrigin hl, ← eq_unknown_iff_hasOrigin hr]
  simp

end Expr

/-- An assignment of an expression that has lost its type is not reported. -/
lemma Assignment.errors_check_of_hasOrigin {a : Assignment} (he : a.expr.WellFormed)
    (h : a.expr.HasOrigin t) : (a.check t).errors = (a.expr.typeOf t).errors := by
  obtain ⟨es, ty, hexpr⟩ := he.exists_yields t
  obtain rfl := (Expr.eq_unknown_iff_hasOrigin hexpr).2 h
  have hreports : a.reports (t.lookup a.name.text) .unknown = [] := by
    rcases t.lookup a.name.text with _ | (_ | _) <;> rfl
  have hcheck := Visit.assign_yields_iff.2 ⟨es, .unknown, hexpr, rfl, rfl⟩
  rw [hcheck.1, hreports, List.append_nil, hexpr.1]

/-- A condition that has lost its type is not reported, whatever the options. -/
lemma Stmt.errors_check_of_hasOrigin {condition : Expr} (he : condition.WellFormed)
    (h : condition.HasOrigin t) (o : Options) (body : List Stmt) (span : Span) :
    (Stmt.check o (.ifThen condition body span) t).errors =
      (condition.typeOf t).errors ++ (Stmt.checkAll o body t).errors := by
  obtain ⟨es, ty, hcondition⟩ := he.exists_yields t
  obtain rfl := (Expr.eq_unknown_iff_hasOrigin hcondition).2 h
  have hquiet : o.checkCondition condition .unknown = pure () := by
    simp [Options.checkCondition, Ty.agrees]
  rw [Stmt.check, Check.errors_bind_of_ok hcondition.2, hquiet, pure_bind]

/-! ## Arithmetic -/

/-- The expression has no comparison in it. -/
def Expr.IsArithmetic (e : Expr) : Prop := ∀ op ∈ e.operators, op.isComparison = false

/-- The names and literals of the expression all have the type `b`. -/
def Expr.LeavesAre (t : SymbolTable) (b : BaseTy) (e : Expr) : Prop :=
  ∀ tm ∈ e.leaves, tm.knownTy? t = some b

lemma Operator.result_eq_base_iff {op : Operator} (hop : op.isComparison = false) {b : BaseTy} :
    op.result l r = .base b ↔ l = .base b ∧ r = .base b := by
  rcases l with a | _ <;> rcases r with a' | _
  case base.base =>
    by_cases h : a = a'
    · simp [result, hop, h]
    · have hne : a = b → ¬ a' = b := fun ha ha' => h (ha.trans ha'.symm)
      simpa [result, h] using hne
  all_goals simp [result, hop]

namespace Expr

lemma isArithmetic_binary_iff : (Expr.binary lhs [op] rhs span).IsArithmetic ↔
    op.value.isComparison = false ∧ lhs.IsArithmetic ∧ rhs.IsArithmetic := by
  simp [IsArithmetic, operators, or_imp, forall_and, and_left_comm]

lemma IsArithmetic.of_mem_parts (he : e.IsArithmetic) : ∀ part ∈ e.parts, part.IsArithmetic := by
  cases e with
  | term tm => simp [parts]
  | paren inner span =>
      have hinner : inner.IsArithmetic := he
      simpa [parts] using hinner
  | binary lhs ops rhs span =>
      simp only [IsArithmetic, operators, List.mem_append, or_imp, forall_and] at he
      have hparts : lhs.IsArithmetic ∧ rhs.IsArithmetic := ⟨he.1.1, he.2⟩
      simpa [parts] using hparts

/-- Without comparisons, an expression has a known type exactly if all its leaves have it. -/
lemma eq_base_iff_leavesAre (he : e.IsArithmetic) (h : (e.typeOf t).Yields es ty) {b : BaseTy} :
    ty = .base b ↔ e.LeavesAre t b := by
  induction e generalizing es ty with
  | term tm =>
      rcases tm.eq_name_or_literal with ⟨n, rfl⟩ | ⟨b', hb'⟩
      · rcases yields_name_iff.1 h with ⟨hn, -⟩ | ⟨hn, -, rfl⟩
        · simp [LeavesAre, leaves, Term.knownTy?, SymbolTable.get?_eq_some_iff, hn]
        · simp [LeavesAre, leaves, Term.knownTy?, SymbolTable.get?_eq_some_iff,
            SymbolTable.lookup_eq_none_iff.2 hn]
      · obtain ⟨-, rfl⟩ := (yields_literal_iff hb').1 h
        cases tm <;> simp_all [LeavesAre, leaves, Term.knownTy?, Term.literalTy?]
  | paren inner span ih => exact ih he (yields_paren_iff.1 h)
  | binary lhs ops rhs span ihl ihr =>
      obtain ⟨op, es₁, l, es₂, r, rfl, hl, hr, -, rfl⟩ := yields_binary_iff.1 h
      obtain ⟨hop, hlhs, hrhs⟩ := isArithmetic_binary_iff.1 he
      rw [Operator.result_eq_base_iff hop, ihl hlhs hl, ihr hrhs hr]
      simp [LeavesAre, leaves, or_imp, forall_and]

/-- Without comparisons, a binary node reports exactly if its two sides are of one type each and the
types differ. -/
lemma mismatched_iff_leavesAre (he : (Expr.binary lhs ops rhs span).WellFormed)
    (hop : (Expr.binary lhs ops rhs span).IsArithmetic) :
    (Expr.binary lhs ops rhs span).Mismatched t ↔
      ∃ a b, lhs.LeavesAre t a ∧ rhs.LeavesAre t b ∧ a ≠ b := by
  obtain ⟨op, es₁, l, es₂, r, rfl, hl, hr⟩ := he.exists_operands t
  obtain ⟨-, hlhs, hrhs⟩ := isArithmetic_binary_iff.1 hop
  rw [mismatched_binary_iff hl hr]
  simp only [eq_base_iff_leavesAre hlhs hl, eq_base_iff_leavesAre hrhs hr]

end Expr

end

/-- **The unknown type comes from an origin on the spine, and nothing on its way is reported
again.**

Take a well-formed expression and any table.  The expression is given a type, and its errors are
those that its nodes report themselves, each node after its parts; all of them are about unknown
names and mismatched operands.

* The type is unknown exactly if there is an origin on the spine of the expression.
* A binary node in it reports its operands only if neither operand has an origin on its spine.
* If the expression has an origin on its spine, then an assignment of it, to whatever name, and a
  condition that it makes, with whatever options, report nothing but the errors of the expression.
* If there is no comparison in the expression, a binary node in it reports its operands exactly if
  all names and literals on its left have one known type, all of those on its right have one known
  type, and the two types differ. -/
theorem Expr.typeOf_loses_type_along_spine (e : Expr) (he : e.WellFormed) (t : SymbolTable) :
    (∃ ty, (e.typeOf t).result = .ok ty ∧ (ty = .unknown ↔ ∃ n ∈ e.spine, n.IsOrigin t)) ∧
      (e.typeOf t).errors = e.postorder.flatMap (Expr.ownErrors t) ∧
      (∀ err ∈ (e.typeOf t).errors, err.IsOrigin) ∧
      (∀ lhs ops rhs span, .binary lhs ops rhs span ∈ e.postorder →
        (Expr.binary lhs ops rhs span).Mismatched t →
          (¬ ∃ n ∈ lhs.spine, n.IsOrigin t) ∧ ¬ ∃ n ∈ rhs.spine, n.IsOrigin t) ∧
      ((∃ n ∈ e.spine, n.IsOrigin t) →
        (∀ name span, (Assignment.check ⟨name, e, span⟩ t).errors = (e.typeOf t).errors) ∧
          ∀ o body span, (Stmt.check o (.ifThen e body span) t).errors =
            (e.typeOf t).errors ++ (Stmt.checkAll o body t).errors) ∧
      (e.IsArithmetic → ∀ lhs ops rhs span, .binary lhs ops rhs span ∈ e.postorder →
        ((Expr.binary lhs ops rhs span).Mismatched t ↔
          ∃ a b, lhs.LeavesAre t a ∧ rhs.LeavesAre t b ∧ a ≠ b)) := by
  obtain ⟨es, ty, h⟩ := he.exists_yields t
  have hnodes : ∀ n ∈ e.postorder, n.WellFormed :=
    forall_mem_postorder (fun _ => WellFormed.of_mem_parts) he
  refine ⟨⟨ty, h.2, eq_unknown_iff_hasOrigin h⟩, errors_eq_ownErrors he t, ?_, ?_, ?_, ?_⟩
  · intro err herr
    rw [h.1] at herr
    have hcause := justifies_typeOf h err herr
    cases err with
    | unknownName _ | operands _ _ _ => trivial
    | assignment _ _ _ _ _ | condition _ _ => exact hcause
  · intro lhs ops rhs span hn hmismatch
    exact hmismatch.not_hasOrigin (hnodes _ hn)
  · intro horigin
    exact ⟨fun name span => Assignment.errors_check_of_hasOrigin (a := ⟨name, e, span⟩) he horigin,
      Stmt.errors_check_of_hasOrigin he horigin⟩
  · intro harithmetic lhs ops rhs span hn
    have hnode := forall_mem_postorder (fun _ => IsArithmetic.of_mem_parts) harithmetic _ hn
    exact mismatched_iff_leavesAre (hnodes _ hn) hnode

/-- The table of a program that declares `x` to be a string. -/
def declaredString : SymbolTable :=
  SymbolTable.empty.bind "x" ⟨.base .string, .declared, .ofLine 1⟩

/-- The expression `x * 2`. -/
def doubledName : Expr :=
  .binary (.term (.name ⟨"x", .ofLine 2⟩)) [⟨.multiply, .ofLine 2⟩] (.term (.int ⟨2, .ofLine 2⟩))
    (.ofLine 2)

/-- The expression `((w + 1) == "a") + (x * 2)`.  The comparison has a type although `w` is not
known in its left operand. -/
def losesTypeOnTheRight : Expr :=
  .binary
    (.paren (.binary
      (.paren (.binary (.term (.name ⟨"w", .ofLine 1⟩)) [⟨.add, .ofLine 1⟩]
        (.term (.int ⟨1, .ofLine 1⟩)) (.ofLine 1)) (.ofLine 1))
      [⟨.equals, .ofLine 1⟩] (.term (.string ⟨"a", .ofLine 1⟩)) (.ofLine 1)) (.ofLine 1))
    [⟨.add, .ofLine 2⟩] (.paren doubledName (.ofLine 2)) (.ofLine 1)

theorem Expr.typeOf_losesTypeOnTheRight :
    losesTypeOnTheRight.WellFormed ∧ doubledName ∈ losesTypeOnTheRight.spine ∧
      doubledName.IsOrigin declaredString ∧
      (losesTypeOnTheRight.typeOf declaredString).result = .ok .unknown ∧
      (∀ name span, (Assignment.check ⟨name, losesTypeOnTheRight, span⟩ declaredString).errors =
        [.unknownName ⟨"w", .ofLine 1⟩, .operands (.ofLine 2) .string .int]) ∧
      ∃ a b, (Expr.term (.name ⟨"x", .ofLine 2⟩)).LeavesAre declaredString a ∧
        (Expr.term (.int ⟨2, .ofLine 2⟩)).LeavesAre declaredString b ∧ a ≠ b := by
  have he : losesTypeOnTheRight.WellFormed := by decide
  have hproduct : doubledName.WellFormed := by decide
  have hmember : doubledName ∈ losesTypeOnTheRight.spine := by decide
  have hmismatch : doubledName.Mismatched declaredString :=
    ⟨.ofLine 2, .string, .int, by decide⟩
  have horigin : ∃ n ∈ losesTypeOnTheRight.spine, n.IsOrigin declaredString :=
    ⟨doubledName, hmember, hmismatch⟩
  have harithmetic : doubledName.IsArithmetic := by
    unfold IsArithmetic
    decide
  obtain ⟨⟨ty, hok, hunknown⟩, -, -, -, hsilent, -⟩ :=
    Expr.typeOf_loses_type_along_spine losesTypeOnTheRight he declaredString
  obtain ⟨-, -, -, -, -, hleaves⟩ :=
    Expr.typeOf_loses_type_along_spine doubledName hproduct declaredString
  refine ⟨he, hmember, hmismatch, ?_, ?_, ?_⟩
  · rw [hok, hunknown.2 horigin]
  · intro name span
    rw [(hsilent horigin).1 name span]
    decide
  · exact (hleaves harithmetic _ _ _ _ (by decide)).1 hmismatch

end ScriptTyping
