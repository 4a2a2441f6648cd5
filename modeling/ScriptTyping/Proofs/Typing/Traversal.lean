import ScriptTyping.Diagnostic.Log
import ScriptTyping.Proofs.Typing.Outcome

/-!
# The traversal of a program

The checker walks a tree in which conditionals nest, but it has no scopes: the body of a conditional
works on the table of everything around it.  So a run over a program is a run over a flat list.
`Stmt.visitsAll` is that list, the *visits* of a traversal in their order:

* a declaration takes effect, and only then is its initializer visited;
* a condition is visited before the body it guards;
* a visit that assigns has looked at its expression before its target is established.

`Stmt.checkAll_eq_run` says that checking statements is checking their visits one after another,
as outcomes: same value or violation, same reports, same trace.  It is the only induction over
nested statements that the theory of a run needs; everything after it is an induction over a list.
`Visit.target?` and `Visit.uses` say which name a visit establishes and which it reads, and that is
all that the order of a traversal is ever asked about.
-/

namespace ScriptTyping

/-! ## Visits -/

/-- What the traversal of a program comes across. -/
inductive Visit where
  /-- A declaration takes effect. -/
  | declare (d : Decl)
  /-- The initializer `a` of the declaration `d`. -/
  | initializer (d : Decl) (a : Assignment)
  | assign (a : Assignment)
  | condition (e : Expr)
  | print (e : Expr)

/-- A declaration is visited first, and then its initializer, if it has one. -/
def Decl.visits (d : Decl) : List Visit :=
  .declare d :: (d.init.map (Visit.initializer d)).toList

mutual

/-- The visits of a statement. -/
def Stmt.visits : Stmt → List Visit
  | .decl d => d.visits
  | .assign a => [.assign a]
  | .ifThen condition body _ => .condition condition :: Stmt.visitsAll body
  | .print e _ => [.print e]

/-- The visits of statements, from left to right. -/
def Stmt.visitsAll : List Stmt → List Visit
  | [] => []
  | s :: rest => s.visits ++ Stmt.visitsAll rest

end

/-- The visits of a program. -/
def Program.visits (p : Program) : List Visit := Stmt.visitsAll p.stmts

lemma Stmt.visitsAll_append (as bs : List Stmt) :
    Stmt.visitsAll (as ++ bs) = Stmt.visitsAll as ++ Stmt.visitsAll bs := by
  induction as with
  | nil => rfl
  | cons s rest ih => rw [List.cons_append, visitsAll, visitsAll, ih, List.append_assoc]

/-! ## What a visit reads and establishes -/

/-- The names that occur in an expression, from left to right. -/
def Expr.names : Expr → List Name
  | .term (.name n) => [n]
  | .term _ => []
  | .binary lhs _ rhs _ => lhs.names ++ rhs.names
  | .paren inner _ => inner.names

namespace Visit

/-- The expression that a visit looks at. -/
def expr? : Visit → Option Expr
  | declare _ => none
  | initializer _ a | assign a => some a.expr
  | condition e | print e => some e

/-- The names that a visit reads. -/
def uses (v : Visit) : List Name := v.expr?.elim [] Expr.names

/-- The name that a visit establishes, after it has read what it reads. -/
def target? : Visit → Option String
  | declare d => some d.name.text
  | initializer _ a | assign a => some a.name.text
  | condition _ | print _ => none

/-- The names that visits establish. -/
def targets (vs : List Visit) : List String := vs.filterMap target?

@[simp] lemma targets_nil : targets [] = [] := rfl

lemma targets_cons (v : Visit) (vs : List Visit) :
    targets (v :: vs) = v.target?.toList ++ targets vs := by
  cases h : v.target? <;> simp [targets, h]

lemma targets_append (vs ws : List Visit) : targets (vs ++ ws) = targets vs ++ targets ws :=
  List.filterMap_append

/-- A relation holds of each visit and the visits before it. -/
def Throughout (P : List Visit → Visit → Prop) (vs : List Visit) : Prop :=
  ∀ before v after, vs = before ++ v :: after → P before v

lemma throughout_nil {P : List Visit → Visit → Prop} : Throughout P [] := by
  intro before v after h
  simp at h

lemma throughout_cons_iff {P : List Visit → Visit → Prop} {v : Visit} {vs : List Visit} :
    Throughout P (v :: vs) ↔ P [] v ∧ Throughout (fun before => P (v :: before)) vs := by
  constructor
  · intro h
    exact ⟨h [] v vs rfl, fun before w after hsplit =>
      h (v :: before) w after (by rw [hsplit, List.cons_append])⟩
  · rintro ⟨hv, hvs⟩ before w after hsplit
    cases before with
    | nil =>
        obtain ⟨rfl, -⟩ := List.cons.inj hsplit
        exact hv
    | cons v' before =>
        obtain ⟨rfl, hrest⟩ := List.cons.inj hsplit
        exact hvs before w after hrest

/-! ## Checking visits -/

/-- Checks what one visit comes across. -/
def check (o : Options) : Visit → SymbolTable → Check SymbolTable
  | declare d, t => do
    d.noteRedeclaration (t.bound d.name.text d.binding).ty
    return t.bind d.name.text d.binding
  | initializer d a, t =>
    if a.name.text = d.name.text then a.check t
    else Check.violate (.initializerTarget d.name a.name)
  | assign a, t => a.check t
  | condition e, t => do
    let ty ← e.typeOf t
    o.checkCondition e ty
    return t
  | print e, t => do
    let _ ← e.typeOf t
    return t

/-- Checks visits one after another. -/
def run (o : Options) (vs : List Visit) (t : SymbolTable) : Check SymbolTable :=
  vs.foldlM (fun t v => v.check o t) t

variable {o : Options} {t : SymbolTable}

lemma run_nil : run o [] t = pure t := rfl

lemma run_cons (v : Visit) (vs : List Visit) : run o (v :: vs) t = v.check o t >>= run o vs :=
  List.foldlM_cons

lemma run_append (vs ws : List Visit) : run o (vs ++ ws) t = run o vs t >>= run o ws :=
  List.foldlM_append

lemma run_singleton (v : Visit) : run o [v] t = v.check o t := by
  rw [run_cons]
  exact bind_pure _

end Visit

lemma Decl.check_eq_run (o : Options) (d : Decl) (t : SymbolTable) :
    d.check t = Visit.run o d.visits t := by
  rw [Decl.visits, Visit.run_cons, Visit.check, bind_assoc]
  simp only [pure_bind]
  cases h : d.init with
  | none => simp only [Decl.check, Decl.checkInit, h, Option.map_none, Option.toList_none,
      Visit.run_nil]
  | some a => simp only [Decl.check, Decl.checkInit, h, Option.map_some, Option.toList_some,
      Visit.run_singleton, Visit.check]

/-- Induction over a list of statements and the bodies nested in it. -/
@[elab_as_elim]
theorem Stmt.listInduction {motive : List Stmt → Prop} (nil : motive [])
    (decl : ∀ d rest, motive rest → motive (.decl d :: rest))
    (assign : ∀ a rest, motive rest → motive (.assign a :: rest))
    (ifThen : ∀ e body s rest, motive body → motive rest → motive (.ifThen e body s :: rest))
    (print : ∀ e s rest, motive rest → motive (.print e s :: rest)) :
    ∀ ss, motive ss
  | [] => nil
  | .decl d :: rest => decl d rest (listInduction nil decl assign ifThen print rest)
  | .assign a :: rest => assign a rest (listInduction nil decl assign ifThen print rest)
  | .ifThen e body s :: rest =>
      ifThen e body s rest (listInduction nil decl assign ifThen print body)
        (listInduction nil decl assign ifThen print rest)
  | .print e s :: rest => print e s rest (listInduction nil decl assign ifThen print rest)

/-- **A run is flat.** Checking statements, however they nest, is checking their visits one after
another. -/
theorem Stmt.checkAll_eq_run (o : Options) (ss : List Stmt) (t : SymbolTable) :
    Stmt.checkAll o ss t = Visit.run o (Stmt.visitsAll ss) t := by
  induction ss using Stmt.listInduction generalizing t with
  | nil => rfl
  | decl d rest ih =>
      rw [checkAll, check, visitsAll, visits, Visit.run_append, Decl.check_eq_run o]
      exact bind_congr ih
  | assign a rest ih =>
      rw [checkAll, check, visitsAll, visits, Visit.run_append, Visit.run_singleton, Visit.check]
      exact bind_congr ih
  | ifThen e body s rest ihBody ih =>
      rw [checkAll, check, visitsAll, visits, List.cons_append, Visit.run_cons, Visit.check]
      simp only [bind_assoc, pure_bind, Visit.run_append, ihBody]
      exact bind_congr fun ty => bind_congr fun _ => bind_congr ih
  | print e s rest ih =>
      rw [checkAll, check, visitsAll, visits, Visit.run_append, Visit.run_singleton, Visit.check]
      exact bind_congr ih

end ScriptTyping
