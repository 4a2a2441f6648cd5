import ScriptTyping.Proofs.Typing.Rules

/-!
# The trace of a run

A run leaves three records: the errors in the log, the table it yields and the trace of what it did.
They are written in different places of the checker.  This file finds the trace of a run, read by
the words and fields of its events.

Two arguments are needed, because a run that ends at a violation has no table.

* `Announced` describes the notes of every run, also of one that is cut off: reports come with the
  event that announces them, and the end of a run is not among its events.
* `Check.Tells f c xs a` says that `c` yields `a` and that reading its trace by `f` gives `xs`.  Its
  rules are those of `Check.Yields`.  `Visit.tells_check` finds the trace of a visit: the events of
  its expression, node by node, followed by `Visit.marks`.
-/

namespace ScriptTyping

/-! ## Reading events -/

namespace Event

/-- The text of a field of an event, if the event has the field. -/
def field? (e : Event) (name : String) : Option String :=
  (e.fields.lookup name).map FieldValue.text

/-- The named fields of an event that has the given words. -/
def saying (words : String) (names : List String) (e : Event) : Option (List (Option String)) :=
  if e.message = some words then some (names.map e.field?) else none

/-- The expression of an event that carries an expression and a type. -/
def exprText? (e : Event) : Option String :=
  (e.field? "expr").bind fun text => (e.field? "ty").map fun _ => text

/-- The texts of the errors that events announce. -/
def reported : Event → Option (List (Option String)) := saying "reporting a typing error" ["error"]

/-- The variables that events tell to be adopted, with their types. -/
def adopting : Event → Option (List (Option String)) :=
  saying "binding an undeclared name on assignment" ["variable", "ty"]

/-- The variables that events tell to be declared in vain, with the type they had and the type they
were declared with. -/
def redeclaring : Event → Option (List (Option String)) :=
  saying "ignoring a redeclaration" ["variable", "previous", "redeclared"]

/-- The event says that a run has come to its end. -/
def IsClosing (e : Event) : Prop := e.message = some "type checking finished"

/-- The event tells of a single step of a run that is no report. -/
def IsMark : Event → Prop
  | typed _ _ | redeclared _ _ _ | adopted _ _ => True
  | started _ | reporting _ | finished _ => False

lemma reported_reporting (e : TypingError) : reported (.reporting e) = some [some e.message] := rfl

lemma IsMark.reported_eq_none {e : Event} (he : e.IsMark) : e.reported = none := by
  cases e with
  | typed _ _ | redeclared _ _ _ | adopted _ _ => rfl
  | started _ | reporting _ | finished _ => exact he.elim

lemma IsMark.not_isClosing {e : Event} (he : e.IsMark) : ¬ e.IsClosing := by
  cases e with
  | typed _ _ | redeclared _ _ _ | adopted _ _ => simp [IsClosing, message]
  | started _ | reporting _ | finished _ => exact he.elim

end Event

/-! ## Reports are announced -/

/-- Notes in which marks stand by themselves, and an error and the event that announces it stand
together. -/
inductive Announced : List Note → Prop
  | nil : Announced []
  | mark {e : Event} {ns : List Note} (he : e.IsMark) (h : Announced ns) :
      Announced (.event e :: ns)
  | report (e : TypingError) {ns : List Note} (h : Announced ns) :
      Announced (.event (.reporting e) :: .error e :: ns)

namespace Announced

variable {ns ms : List Note}

lemma append (hns : Announced ns) (hms : Announced ms) : Announced (ns ++ ms) := by
  induction hns with
  | nil => exact hms
  | mark he _ ih => exact .mark he ih
  | report e _ ih => exact .report e ih

/-- The events announce exactly the errors. -/
lemma filterMap_reported (h : Announced ns) :
    (ns.filterMap Note.event?).filterMap Event.reported =
      (ns.filterMap Note.error?).map fun e => [some e.message] := by
  induction h with
  | nil => rfl
  | @mark e ns he _ ih =>
      have hevents : (Note.event e :: ns).filterMap Note.event? =
          e :: ns.filterMap Note.event? := rfl
      have herrors : (Note.event e :: ns).filterMap Note.error? = ns.filterMap Note.error? := rfl
      rw [hevents, herrors, List.filterMap_cons_none he.reported_eq_none, ih]
  | @report e ns _ ih =>
      have hevents : (Note.event (.reporting e) :: .error e :: ns).filterMap Note.event? =
          .reporting e :: ns.filterMap Note.event? := rfl
      have herrors : (Note.event (.reporting e) :: .error e :: ns).filterMap Note.error? =
          e :: ns.filterMap Note.error? := rfl
      rw [hevents, herrors, List.filterMap_cons_some (Event.reported_reporting e), ih,
        List.map_cons]

lemma not_isClosing (h : Announced ns) : ∀ e ∈ ns.filterMap Note.event?, ¬ e.IsClosing := by
  induction h with
  | nil => exact List.forall_mem_nil _
  | mark he _ ih => exact List.forall_mem_cons.2 ⟨he.not_isClosing, ih⟩
  | report e _ ih =>
      refine List.forall_mem_cons.2 ⟨?_, ih⟩
      simp [Event.IsClosing, Event.message]

end Announced

section

variable {α β : Type} {c : Check α} {f : α → Check β}

lemma Check.announced_bind (hc : Announced c.notes) (hf : ∀ a, Announced (f a).notes) :
    Announced (c >>= f).notes := by
  cases h : c.result with
  | error v =>
      rw [bind_of_error h]
      exact hc
  | ok a =>
      rw [bind_of_ok h]
      exact hc.append (hf a)

lemma Check.announced_report (e : TypingError) : Announced (report e).notes := .report e .nil

lemma Check.announced_trace {e : Event} (he : e.IsMark) : Announced (trace e).notes := .mark he .nil

end

section

variable (t : SymbolTable) (o : Options)

open Check

/-- Whatever is done to find the type of an expression, an event that tells the type follows. -/
lemma Check.announced_typed {c : Check Ty} (hc : Announced c.notes) (e : Expr) :
    Announced (c >>= fun ty => trace (.typed e ty) >>= fun _ => pure ty).notes :=
  announced_bind hc fun _ => announced_bind (announced_trace trivial) fun _ => .nil

lemma Term.announced_typeOf (tm : Term) : Announced (tm.typeOf t).notes := by
  cases tm with
  | name n =>
      rw [typeOf, Name.typeOf]
      cases t.lookup n.text with
      | some ty => exact .nil
      | none => exact announced_bind (announced_report _) fun _ => .nil
  | int _ | string _ | bool _ => exact .nil

lemma Operator.announced_typeOf (span : Span) (op : Operator) (l r : Ty) :
    Announced (op.typeOf span l r).notes := by
  rcases l with a | _ <;> rcases r with b | _
  case base.base =>
    rw [typeOf]
    split
    · exact .nil
    · exact announced_bind (announced_report _) fun _ => .nil
  all_goals exact .nil

lemma Expr.announced_typeOf (e : Expr) : Announced (e.typeOf t).notes := by
  induction e with
  | term tm => exact announced_typed (tm.announced_typeOf t) _
  | paren inner span ih => exact announced_typed ih _
  | binary lhs ops rhs span ihl ihr =>
      rw [typeOf]
      cases singleOperator? ops with
      | none => exact .nil
      | some op =>
          refine announced_bind ihl fun l => announced_bind ihr fun r => ?_
          exact announced_typed (op.announced_typeOf span l r) _

lemma Assignment.announced_check (a : Assignment) : Announced (a.check t).notes := by
  refine announced_bind (a.expr.announced_typeOf t) fun ty => ?_
  unfold settle
  split
  · split
    · exact .nil
    · exact announced_bind (announced_report _) fun _ => .nil
  · exact .nil
  · exact announced_bind (announced_trace trivial) fun _ => .nil

lemma Decl.announced_noteRedeclaration (d : Decl) (ty : Ty) :
    Announced (d.noteRedeclaration ty).notes := by
  rw [noteRedeclaration]
  split
  · exact .nil
  · exact announced_trace trivial

lemma Options.announced_checkCondition (e : Expr) (ty : Ty) :
    Announced (o.checkCondition e ty).notes := by
  rw [checkCondition]
  split
  · exact announced_report _
  · exact .nil

namespace Visit

lemma announced_check (v : Visit) : Announced (v.check o t).notes := by
  cases v with
  | declare d => exact announced_bind (d.announced_noteRedeclaration _) fun _ => .nil
  | initializer d a =>
      rw [check]
      split
      · exact a.announced_check t
      · exact .nil
  | assign a => exact a.announced_check t
  | condition e =>
      exact announced_bind (e.announced_typeOf t) fun ty =>
        announced_bind (o.announced_checkCondition e ty) fun _ => .nil
  | print e => exact announced_bind (e.announced_typeOf t) fun _ => .nil

/-- **The notes of every run are announced**, also if the run ends at a violation. -/
lemma announced_run (vs : List Visit) : Announced (run o vs t).notes := by
  induction vs generalizing t with
  | nil => exact .nil
  | cons v vs ih =>
      rw [run_cons]
      exact announced_bind (announced_check t o v) ih

end Visit

end

/-! ## Reading the trace of a run that yields a value -/

namespace Check

variable {α β γ : Type} {f : Event → Option γ} {c : Check α} {g : α → Check β} {xs : List γ}
  {a : α} {b : β}

/-- The computation yields `a`, and reading its trace by `f` gives `xs`. -/
def Tells (f : Event → Option γ) (c : Check α) (xs : List γ) (a : α) : Prop :=
  c.events.filterMap f = xs ∧ c.result = .ok a

lemma tells_pure_iff {a' : α} : (pure a : Check α).Tells f xs a' ↔ xs = [] ∧ a' = a := by
  simp [Tells, events, eq_comm]

lemma tells_trace_iff {e : Event} {u : Unit} : (trace e).Tells f xs u ↔ xs = [e].filterMap f := by
  have hevents : (trace e).events = [e] := rfl
  have hresult : (trace e).result = .ok u := rfl
  rw [Tells, hevents, and_iff_left hresult, eq_comm]

lemma tells_report_iff {e : TypingError} {u : Unit} (he : f (.reporting e) = none) :
    (report e).Tells f xs u ↔ xs = [] := by
  have hevents : (report e).events = [.reporting e] := rfl
  have hresult : (report e).result = .ok u := rfl
  rw [Tells, hevents, and_iff_left hresult, eq_comm, List.filterMap_cons_none he,
    List.filterMap_nil]

lemma not_tells_violate {v : Violation} : ¬ (violate v : Check α).Tells f xs a := by
  simp [Tells, violate]

/-- The trace of a sequence is the trace of its first half followed by that of its second half. -/
lemma tells_bind_iff : (c >>= g).Tells f xs b ↔
    ∃ xs₁ a xs₂, c.Tells f xs₁ a ∧ (g a).Tells f xs₂ b ∧ xs = xs₁ ++ xs₂ := by
  cases h : c.result with
  | error v => simp [Tells, result_bind_of_error h, h]
  | ok a =>
      have hevents : (c >>= g).events = c.events ++ (g a).events := by
        rw [bind_of_ok h]
        exact List.filterMap_append
      rw [Tells, result_bind_of_ok h, hevents, List.filterMap_append]
      constructor
      · rintro ⟨rfl, hb⟩
        exact ⟨_, a, _, ⟨rfl, h⟩, ⟨rfl, hb⟩, rfl⟩
      · rintro ⟨xs₁, a', xs₂, ⟨rfl, ha⟩, ⟨rfl, hb⟩, rfl⟩
        obtain rfl : a = a' := Except.ok.inj (h.symm.trans ha)
        exact ⟨rfl, hb⟩

/-- A computation that reports an error and then yields a value tells nothing else. -/
lemma tells_report_pure {e : TypingError} {a' : α} (he : f (.reporting e) = none)
    (h : (report e >>= fun _ => pure a).Tells f xs a') : xs = [] := by
  obtain ⟨xs₁, _, xs₂, hreport, hpure, rfl⟩ := tells_bind_iff.1 h
  rw [(tells_report_iff he).1 hreport, (tells_pure_iff.1 hpure).1, List.append_nil]

end Check

/-- Reading by `f` passes over reports, and sees of the type of an expression only whose it is. -/
structure Event.Overlooks {γ : Type} (f : Event → Option γ) (node : Expr → Option γ) : Prop where
  reporting : ∀ e, f (.reporting e) = none
  typed : ∀ e ty, f (.typed e ty) = node e

/-- The nodes of an expression, each after its parts and the left part first. -/
def Expr.postorder : Expr → List Expr
  | .term t => [.term t]
  | .binary lhs ops rhs span => lhs.postorder ++ rhs.postorder ++ [.binary lhs ops rhs span]
  | .paren inner span => inner.postorder ++ [.paren inner span]

/-- The expression of a visit and all its parts. -/
def Visit.exprs (v : Visit) : List Expr := v.expr?.elim [] Expr.postorder

/-- The expressions of a program and all their parts, in the order of the traversal. -/
def Program.exprs (p : Program) : List Expr := p.visits.flatMap Visit.exprs

section

variable {γ : Type} {f : Event → Option γ} {node : Expr → Option γ} {t u : SymbolTable}
  {xs : List γ} {ty : Ty}

open Check Event

lemma Term.tells_typeOf (hf : Overlooks f node) {tm : Term} (h : (tm.typeOf t).Tells f xs ty) :
    xs = [] := by
  cases tm with
  | name n =>
      rw [typeOf, Name.typeOf] at h
      cases hlookup : t.lookup n.text with
      | some ty' =>
          rw [hlookup] at h
          exact (tells_pure_iff.1 h).1
      | none =>
          rw [hlookup] at h
          exact tells_report_pure (hf.reporting _) h
  | int _ | string _ | bool _ => exact (tells_pure_iff.1 h).1

lemma Operator.tells_typeOf (hf : Overlooks f node) {op : Operator} {span : Span} {l r : Ty}
    (h : (op.typeOf span l r).Tells f xs ty) : xs = [] := by
  rcases l with a | _ <;> rcases r with b | _
  case base.base =>
    rw [typeOf] at h
    split at h
    · exact (tells_pure_iff.1 h).1
    · exact tells_report_pure (hf.reporting _) h
  all_goals exact (tells_pure_iff.1 h).1

/-- The last event of an expression is its own. -/
lemma Check.tells_typed (hf : Overlooks f node) {c : Check Ty} {e : Expr}
    (h : (c >>= fun ty => trace (.typed e ty) >>= fun _ => pure ty).Tells f xs ty) :
    ∃ xs', c.Tells f xs' ty ∧ xs = xs' ++ [e].filterMap node := by
  obtain ⟨xs', ty', xs₂, hc, hlast, rfl⟩ := tells_bind_iff.1 h
  obtain ⟨own, _, xs₃, htrace, hpure, rfl⟩ := tells_bind_iff.1 hlast
  obtain ⟨rfl, rfl⟩ := tells_pure_iff.1 hpure
  have hnode : [Event.typed e ty].filterMap f = [e].filterMap node := by
    simp only [List.filterMap_cons, hf.typed, List.filterMap_nil]
  refine ⟨xs', hc, ?_⟩
  rw [tells_trace_iff.1 htrace, hnode, List.append_nil]

/-- **The trace of an expression goes through its nodes**, each after its parts. -/
lemma Expr.tells_typeOf (hf : Overlooks f node) {e : Expr} (h : (e.typeOf t).Tells f xs ty) :
    xs = e.postorder.filterMap node := by
  induction e generalizing xs ty with
  | term tm =>
      obtain ⟨xs', hterm, rfl⟩ := tells_typed hf h
      rw [Term.tells_typeOf hf hterm, postorder, List.nil_append]
  | paren inner span ih =>
      obtain ⟨xs', hinner, rfl⟩ := tells_typed hf h
      rw [ih hinner, postorder, List.filterMap_append]
  | binary lhs ops rhs span ihl ihr =>
      rw [typeOf] at h
      cases hop : singleOperator? ops with
      | none =>
          rw [hop] at h
          exact absurd h not_tells_violate
      | some op =>
          rw [hop] at h
          obtain ⟨xs₁, l, _, hl, hrest, rfl⟩ := tells_bind_iff.1 h
          obtain ⟨xs₂, r, _, hr, hnode, rfl⟩ := tells_bind_iff.1 hrest
          obtain ⟨xs₃, hresult, rfl⟩ := tells_typed hf hnode
          rw [ihl hl, ihr hr, Operator.tells_typeOf hf hresult, postorder, List.filterMap_append,
            List.filterMap_append, List.nil_append, List.append_assoc]

/-! ## What a visit leaves in the trace -/

/-- The events of a visit that are not about its expression: a declaration that finds its name bound
with another type, and an assignment that finds its target free. -/
def Visit.marks (t : SymbolTable) : Visit → Ty → List Event
  | declare d, _ =>
    match t.lookup d.name.text with
    | some ty => if ty = .base d.ty.value then [] else [.redeclared d.name.text ty d.ty.value]
    | none => []
  | initializer _ a, ty | assign a, ty =>
    if a.name.text ∈ t.names then [] else [.adopted a.name.text ty]
  | condition _, _ | print _, _ => []

lemma Decl.tells_noteRedeclaration {d : Decl} {v : Unit}
    (h : (d.noteRedeclaration (t.bound d.name.text d.binding).ty).Tells f xs v) :
    xs = ((Visit.declare d).marks t ty).filterMap f := by
  rw [SymbolTable.ty_bound, noteRedeclaration] at h
  rw [Visit.marks]
  cases hlookup : t.lookup d.name.text with
  | none =>
      rw [hlookup, Option.getD_none, if_pos (by rfl)] at h
      exact (tells_pure_iff.1 h).1
  | some known =>
      rw [hlookup, Option.getD_some] at h
      by_cases hty : known = .base d.ty.value
      · rw [if_pos hty] at h
        simpa [hty] using (tells_pure_iff.1 h).1
      · rw [if_neg hty] at h
        simpa [hty] using tells_trace_iff.1 h

lemma Assignment.tells_settle (hf : Overlooks f node) {a : Assignment}
    (h : (a.settle t ty).Tells f xs u) :
    xs = ((Visit.assign a).marks t ty).filterMap f := by
  rw [Visit.marks]
  unfold settle at h
  split at h
  next expected actual hlookup =>
    rw [if_pos (SymbolTable.mem_names_of_lookup hlookup)]
    split at h
    · exact (tells_pure_iff.1 h).1
    · exact tells_report_pure (hf.reporting _) h
  next known hlookup _ =>
    rw [if_pos (SymbolTable.mem_names_of_lookup hlookup)]
    exact (tells_pure_iff.1 h).1
  next hlookup =>
    rw [if_neg (SymbolTable.lookup_eq_none_iff.1 hlookup)]
    obtain ⟨xs₁, _, xs₂, htrace, hpure, rfl⟩ := tells_bind_iff.1 h
    rw [tells_trace_iff.1 htrace, (tells_pure_iff.1 hpure).1, List.append_nil]

namespace Visit

variable {o : Options} {v : Visit} {vs : List Visit}

lemma tells_assign (hf : Overlooks f node) {a : Assignment} (h : (a.check t).Tells f xs u) :
    ∃ ty, u = (assign a).effect t ty ∧
      xs = (assign a).exprs.filterMap node ++ ((assign a).marks t ty).filterMap f := by
  obtain ⟨xs₁, ty, xs₂, hexpr, hsettle, rfl⟩ := tells_bind_iff.1 h
  refine ⟨ty, (Assignment.settle_yields_iff.1 ⟨rfl, hsettle.2⟩).2, ?_⟩
  rw [Expr.tells_typeOf hf hexpr, Assignment.tells_settle hf hsettle]
  rfl

/-- **The trace of a visit**: the nodes of its expression, and then its marks. The type is the one
that was found for the expression. -/
lemma tells_check (hf : Overlooks f node) (h : (v.check o t).Tells f xs u) :
    ∃ ty, u = v.effect t ty ∧ xs = v.exprs.filterMap node ++ (v.marks t ty).filterMap f := by
  cases v with
  | declare d =>
      obtain ⟨xs₁, _, xs₂, hnote, hpure, rfl⟩ := tells_bind_iff.1 h
      obtain ⟨rfl, rfl⟩ := tells_pure_iff.1 hpure
      refine ⟨.unknown, rfl, ?_⟩
      rw [Decl.tells_noteRedeclaration hnote, List.append_nil]
      rfl
  | initializer d a =>
      rw [check] at h
      split at h
      · exact tells_assign hf h
      · exact absurd h not_tells_violate
  | assign a => exact tells_assign hf h
  | condition e =>
      obtain ⟨xs₁, ty, xs₂, hexpr, hrest, rfl⟩ := tells_bind_iff.1 h
      obtain ⟨xs₃, _, xs₄, hcond, hpure, rfl⟩ := tells_bind_iff.1 hrest
      obtain ⟨rfl, rfl⟩ := tells_pure_iff.1 hpure
      have hsilent : xs₃ = [] := by
        rw [Options.checkCondition] at hcond
        split at hcond
        · exact (tells_report_iff (hf.reporting _)).1 hcond
        · exact (tells_pure_iff.1 hcond).1
      refine ⟨ty, rfl, ?_⟩
      rw [Expr.tells_typeOf hf hexpr, hsilent]
      rfl
  | print e =>
      obtain ⟨xs₁, ty, xs₂, hexpr, hpure, rfl⟩ := tells_bind_iff.1 h
      obtain ⟨rfl, rfl⟩ := tells_pure_iff.1 hpure
      refine ⟨ty, rfl, ?_⟩
      rw [Expr.tells_typeOf hf hexpr]
      rfl

/-- A reading that passes over expressions sees the marks of a visit and nothing else. -/
lemma tells_marks (hf : Overlooks f fun _ => none) (h : (v.check o t).Tells f xs u) :
    ∃ ty, u = v.effect t ty ∧ xs = (v.marks t ty).filterMap f := by
  obtain ⟨ty, heffect, rfl⟩ := tells_check hf h
  have hexprs : v.exprs.filterMap (fun _ => none) = ([] : List γ) :=
    List.filterMap_eq_nil_iff.2 fun _ _ => rfl
  exact ⟨ty, heffect, by rw [hexprs, List.nil_append]⟩

lemma run_cons_tells_iff : (run o (v :: vs) t).Tells f xs u ↔ ∃ xs₁ t' xs₂,
    (v.check o t).Tells f xs₁ t' ∧ (run o vs t').Tells f xs₂ u ∧ xs = xs₁ ++ xs₂ := by
  rw [run_cons, tells_bind_iff]

end Visit

end

end ScriptTyping
