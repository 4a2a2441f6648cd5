import ScriptTyping.Tree.Expr
import ScriptTyping.Ty

/-!
# Statements and programs

A program is a list of statements.  A declaration may carry an initializer, which is written as an
assignment of its own; a well-formed tree assigns there to the declared name.  There are no scopes:
the body of a conditional sees, and adds to, the same variables as everything around it.
-/

namespace ScriptTyping

/-- An assignment of an expression to a variable. -/
structure Assignment where
  name : Name
  expr : Expr
  span : Span
deriving DecidableEq

/-- A declaration of a variable, with or without an initializer. -/
structure Decl where
  name : Name
  ty : Spanned BaseTy
  init : Option Assignment
  span : Span
deriving DecidableEq

/-- A statement. -/
inductive Stmt where
  | decl (d : Decl)
  | assign (a : Assignment)
  | ifThen (condition : Expr) (body : List Stmt) (span : Span)
  | print (expr : Expr) (span : Span)

/-- A whole program tree. -/
structure Program where
  stmts : List Stmt
  span : Span

instance : Inhabited Program := ⟨⟨[], .origin⟩⟩

/-- The place of a statement as a whole. -/
def Stmt.span : Stmt → Span
  | decl d => d.span
  | assign a => a.span
  | ifThen _ _ s => s
  | print _ s => s

/-- The source text of an assignment. -/
def Assignment.text (a : Assignment) : String :=
  a.name.text ++ "=" ++ a.expr.text

/-! ## Equality

Trees are equal only if their spans are.  The body of a conditional is a list of statements, so
equality of statements and of statement lists is decided by one mutual recursion. -/

mutual

/-- Equality of statements is decidable. -/
def Stmt.decEq : (a b : Stmt) → Decidable (a = b)
  | .decl d, .decl e =>
    if h : d = e then .isTrue (by rw [h]) else .isFalse (fun k => h (by injection k))
  | .assign d, .assign e =>
    if h : d = e then .isTrue (by rw [h]) else .isFalse (fun k => h (by injection k))
  | .ifThen c body s, .ifThen c' body' s' =>
    match Stmt.decEqList body body' with
    | .isTrue hb =>
      if h : c = c' ∧ s = s' then .isTrue (by rw [h.1, h.2, hb])
      else .isFalse (fun k => h (by injection k with h₁ _ h₂; exact ⟨h₁, h₂⟩))
    | .isFalse hb => .isFalse (fun k => hb (by injection k))
  | .print e s, .print e' s' =>
    if h : e = e' ∧ s = s' then .isTrue (by rw [h.1, h.2])
    else .isFalse (fun k => h (by injection k with h₁ h₂; exact ⟨h₁, h₂⟩))
  | .decl _, .assign _ => .isFalse (fun k => by cases k)
  | .decl _, .ifThen _ _ _ => .isFalse (fun k => by cases k)
  | .decl _, .print _ _ => .isFalse (fun k => by cases k)
  | .assign _, .decl _ => .isFalse (fun k => by cases k)
  | .assign _, .ifThen _ _ _ => .isFalse (fun k => by cases k)
  | .assign _, .print _ _ => .isFalse (fun k => by cases k)
  | .ifThen _ _ _, .decl _ => .isFalse (fun k => by cases k)
  | .ifThen _ _ _, .assign _ => .isFalse (fun k => by cases k)
  | .ifThen _ _ _, .print _ _ => .isFalse (fun k => by cases k)
  | .print _ _, .decl _ => .isFalse (fun k => by cases k)
  | .print _ _, .assign _ => .isFalse (fun k => by cases k)
  | .print _ _, .ifThen _ _ _ => .isFalse (fun k => by cases k)

/-- Equality of statement lists is decidable. -/
def Stmt.decEqList : (as bs : List Stmt) → Decidable (as = bs)
  | [], [] => .isTrue rfl
  | [], _ :: _ => .isFalse (fun k => by cases k)
  | _ :: _, [] => .isFalse (fun k => by cases k)
  | a :: as, b :: bs =>
    match Stmt.decEq a b, Stmt.decEqList as bs with
    | .isTrue h, .isTrue hs => .isTrue (by rw [h, hs])
    | .isFalse h, _ => .isFalse (fun k => h (by injection k))
    | _, .isFalse hs => .isFalse (fun k => hs (by injection k))

end

instance : DecidableEq Stmt := Stmt.decEq

/-- Programs are equal if their statements and their spans are. -/
def Program.decEq (p q : Program) : Decidable (p = q) :=
  if h : p.stmts = q.stmts ∧ p.span = q.span then
    .isTrue (by cases p; cases q; obtain ⟨rfl, rfl⟩ := h; rfl)
  else .isFalse (fun k => h ⟨by rw [k], by rw [k]⟩)

instance : DecidableEq Program := Program.decEq

end ScriptTyping
