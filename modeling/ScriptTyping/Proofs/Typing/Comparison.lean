import Mathlib.Data.List.Forall2
import ScriptTyping.Proofs.Typing.Rules

/-!
# Comparing two runs

What a run depends on is found out by comparing it with the run over another program.  This file has
the two parts that every such comparison needs.

* `Check.Matches E V A c d` says that two computations go the same way: errors related by `E` are
  reported one for one, and both yield values related by `A` or both end at violations related by
  `V`.  It holds of two sequences if it holds of the first halves, and of the second halves on all
  related values (`Check.Matches.bind`).  Trace events do not count.
* A `Rewriting` puts other names, expressions and places into a program and keeps its statements.
  It acts on the traversal visit by visit (`Stmt.visitsAll_rewriteAll`), so that a program and its
  rewriting are compared by comparing single visits (`Visit.matches_run`).
-/

namespace ScriptTyping

/-! ## Matching computations -/

namespace Check

variable {α β γ δ : Type} {E : TypingError → TypingError → Prop} {V : Violation → Violation → Prop}
  {A : α → β → Prop} {B : γ → δ → Prop} {c : Check α} {d : Check β} {f : α → Check γ}
  {g : β → Check δ}

/-- Two computations report related errors, one for one, and end alike with related results. -/
inductive Matches (E : TypingError → TypingError → Prop) (V : Violation → Violation → Prop)
    (A : α → β → Prop) (c : Check α) (d : Check β) : Prop
  | yields {a : α} {b : β} (hc : c.result = .ok a) (hd : d.result = .ok b)
      (herrors : List.Forall₂ E c.errors d.errors) (hvalue : A a b)
  | violates {v w : Violation} (hc : c.result = .error v) (hd : d.result = .error w)
      (herrors : List.Forall₂ E c.errors d.errors) (hviolation : V v w)

lemma Matches.errors (h : Matches E V A c d) : List.Forall₂ E c.errors d.errors := by
  cases h with
  | yields _ _ herrors _ => exact herrors
  | violates _ _ herrors _ => exact herrors

lemma matches_pure {a : α} {b : β} (h : A a b) : Matches E V A (pure a) (pure b) :=
  .yields rfl rfl .nil h

lemma matches_violate {v w : Violation} (h : V v w) :
    Matches E V A (violate v : Check α) (violate w : Check β) :=
  .violates rfl rfl .nil h

lemma matches_report {e e' : TypingError} {a : α} {b : β} (he : E e e') (h : A a b) :
    Matches E V A (report e >>= fun _ => pure a) (report e' >>= fun _ => pure b) :=
  .yields rfl rfl (.cons he .nil) h

/-- A computation goes the same way as itself. -/
lemma matches_rfl (c : Check α) : Matches Eq Eq Eq c c := by
  have herrors : List.Forall₂ Eq c.errors c.errors := List.forall₂_same.2 fun _ _ => rfl
  cases h : c.result with
  | ok a => exact .yields h h herrors rfl
  | error v => exact .violates h h herrors rfl

/-- Two sequences match if their first halves do, and then their second halves do. -/
lemma Matches.bind (h : Matches E V A c d)
    (hf : ∀ a b, A a b → Matches E V B (f a) (g b)) : Matches E V B (c >>= f) (d >>= g) := by
  cases h with
  | violates hc hd herrors hviolation =>
      refine .violates (result_bind_of_error hc) (result_bind_of_error hd) ?_ hviolation
      rwa [errors_bind_of_error hc, errors_bind_of_error hd]
  | @yields a b hc hd herrors hvalue =>
      have hboth : List.Forall₂ E (f a).errors (g b).errors →
          List.Forall₂ E (c >>= f).errors (d >>= g).errors := fun hrest => by
        rw [errors_bind_of_ok hc, errors_bind_of_ok hd]
        exact List.rel_append herrors hrest
      cases hf a b hvalue with
      | yields ha hb hrest hvalue =>
          exact .yields ((result_bind_of_ok hc).trans ha) ((result_bind_of_ok hd).trans hb)
            (hboth hrest) hvalue
      | violates ha hb hrest hviolation =>
          exact .violates ((result_bind_of_ok hc).trans ha) ((result_bind_of_ok hd).trans hb)
            (hboth hrest) hviolation

/-- If two computations match, report for report, and the first yields a value, so does the
second. -/
lemma Matches.exists_yields {a : α} {es : List TypingError} (h : Matches Eq V A c d)
    (hc : c.Yields es a) : ∃ b, d.Yields es b ∧ A a b := by
  have herrors : c.errors = d.errors := List.forall₂_eq_eq_eq ▸ h.errors
  cases h with
  | @yields a' b ha hb _ hvalue =>
      obtain rfl : a' = a := Except.ok.inj (ha.symm.trans hc.2)
      exact ⟨b, ⟨herrors ▸ hc.1, hb⟩, hvalue⟩
  | violates hv => cases hv.symm.trans hc.2

/-- A computation that only leaves trace events can be put after the first of two matching ones. -/
lemma Matches.bind_trace_left (h : Matches E V A c d) (e : α → Event) :
    Matches E V A (c >>= fun a => trace (e a) >>= fun _ => pure a) d := by
  rw [← bind_pure d]
  exact h.bind fun _ _ hvalue => .yields rfl rfl .nil hvalue

lemma Matches.bind_trace (h : Matches E V A c d) (e : α → Event) (e' : β → Event) :
    Matches E V A (c >>= fun a => trace (e a) >>= fun _ => pure a)
      (d >>= fun b => trace (e' b) >>= fun _ => pure b) :=
  h.bind fun _ _ hvalue => .yields rfl rfl .nil hvalue

end Check

/-! ## Rewriting a program -/

/-- What is put in place of the names, the expressions and the places of statements. -/
structure Rewriting where
  name : Name → Name
  expr : Expr → Expr
  span : Span → Span

section

variable (r : Rewriting)

def Assignment.rewrite (a : Assignment) : Assignment :=
  ⟨r.name a.name, r.expr a.expr, r.span a.span⟩

def Decl.rewrite (d : Decl) : Decl where
  name := r.name d.name
  ty := ⟨d.ty.value, r.span d.ty.span⟩
  init := d.init.map (Assignment.rewrite r)
  span := r.span d.span

mutual

/-- Rewrites the parts of a statement, at every depth. -/
def Stmt.rewrite : Stmt → Stmt
  | .decl d => .decl (d.rewrite r)
  | .assign a => .assign (a.rewrite r)
  | .ifThen condition body span => .ifThen (r.expr condition) (Stmt.rewriteAll body) (r.span span)
  | .print e span => .print (r.expr e) (r.span span)

/-- Rewrites the parts of statements. -/
def Stmt.rewriteAll : List Stmt → List Stmt
  | [] => []
  | s :: rest => s.rewrite :: Stmt.rewriteAll rest

end

def Program.rewrite (p : Program) : Program := ⟨Stmt.rewriteAll r p.stmts, r.span p.span⟩

def Visit.rewrite : Visit → Visit
  | declare d => declare (d.rewrite r)
  | initializer d a => initializer (d.rewrite r) (a.rewrite r)
  | assign a => assign (a.rewrite r)
  | condition e => condition (r.expr e)
  | print e => print (r.expr e)

lemma Decl.visits_rewrite (d : Decl) : (d.rewrite r).visits = d.visits.map (Visit.rewrite r) := by
  cases h : d.init with
  | none => simp [visits, rewrite, h, Visit.rewrite]
  | some a => simp [visits, rewrite, h, Visit.rewrite]

/-- **Rewriting keeps the traversal.** -/
lemma Stmt.visitsAll_rewriteAll (ss : List Stmt) :
    Stmt.visitsAll (Stmt.rewriteAll r ss) = (Stmt.visitsAll ss).map (Visit.rewrite r) := by
  induction ss using Stmt.listInduction with
  | nil => rfl
  | decl d rest ih =>
      rw [rewriteAll, rewrite, visitsAll, visits, d.visits_rewrite, ih, ← List.map_append]
      rfl
  | assign a rest ih =>
      rw [rewriteAll, rewrite, visitsAll, visits, ih]
      rfl
  | ifThen e body span rest ihBody ih =>
      rw [rewriteAll, rewrite, visitsAll, visits, ihBody, ih, List.cons_append, ← List.map_append]
      rfl
  | print e span rest ih =>
      rw [rewriteAll, rewrite, visitsAll, visits, ih]
      rfl

end

/-! ## Matching runs -/

section

variable {E : TypingError → TypingError → Prop} {V : Violation → Violation → Prop}
  {T : SymbolTable → SymbolTable → Prop} {o : Options}

/-- **Runs match if their visits do.** Here `T` is what holds between the two tables at every point
of the traversal. -/
lemma Visit.matches_run {f : Visit → Visit} {vs : List Visit} {t u : SymbolTable}
    (hstep : ∀ v ∈ vs, ∀ t u, T t u → Check.Matches E V T (v.check o t) ((f v).check o u))
    (htables : T t u) : Check.Matches E V T (run o vs t) (run o (vs.map f) u) := by
  induction vs generalizing t u with
  | nil => exact Check.matches_pure htables
  | cons v vs ih =>
      have hv := hstep v List.mem_cons_self t u htables
      have hvs : ∀ w ∈ vs, ∀ t u, T t u → Check.Matches E V T (w.check o t) ((f w).check o u) :=
        fun w hw => hstep w (List.mem_cons_of_mem v hw)
      rw [List.map_cons, run_cons, run_cons]
      exact hv.bind fun t' u' htables' => ih hvs htables'

/-- What it means for the logs and the outcomes of two programs that their runs match. -/
lemma Log.check_of_matches {p q : Program} (l : Log)
    (h : Check.Matches E V T (Visit.run o p.visits .empty) (Visit.run o q.visits .empty)) :
    ∃ es ds, (l.check o p).1.entries = l.entries ++ es.map TypingError.diagnostic ∧
      (l.check o q).1.entries = l.entries ++ ds.map TypingError.diagnostic ∧
      List.Forall₂ E es ds ∧
      ((∃ t u, (l.check o p).2 = .ok t ∧ (l.check o q).2 = .ok u ∧ T t u) ∨
        ∃ v w, (l.check o p).2 = .error v ∧ (l.check o q).2 = .error w ∧ V v w) := by
  refine ⟨_, _, l.entries_check o p, l.entries_check o q, h.errors, ?_⟩
  rw [Log.result_check, Log.result_check]
  cases h with
  | @yields t u hp hq _ htables => exact Or.inl ⟨t, u, hp, hq, htables⟩
  | @violates v w hp hq _ hviolation => exact Or.inr ⟨v, w, hp, hq, hviolation⟩

end

end ScriptTyping
