import ScriptTyping.Proofs.Typing.Comparison

/-!
# What a run sees of its table

A table can hold any number of variables that a program never mentions.  This file shows that they
are of no consequence: a run depends on what its table says of the names that its statements
mention, and on nothing else of the table, be it other entries, the order of entries or where and
how a name came to be bound.

The comparison is between two runs of the same statements from two tables.  The tables are not equal
at any moment, and neither is a function of the other, so the invariant `SymbolTable.Framed` has two
parts: both tables say the same of every name that is mentioned, and both have grown from where they
started by the same bindings in the same order.  One binding keeps it (`SymbolTable.Framed.bind`),
because a name that one of the tables binds is bound by the other as well.

Main statement: `Stmt.checkAll_frame`.
-/

namespace ScriptTyping

/-! ## Names that are mentioned -/

/-- The names that occur in a visit: its target and the names it reads. -/
def Visit.mentions (v : Visit) : List String := v.target?.toList ++ v.uses.map Name.text

/-- The names that occur in statements at any depth, as a target or inside an expression. -/
def Stmt.mentions (ss : List Stmt) : List String := (Stmt.visitsAll ss).flatMap Visit.mentions

/-- The names that statements declare or assign to at any depth. -/
def Stmt.targets (ss : List Stmt) : List String := Visit.targets (Stmt.visitsAll ss)

namespace SymbolTable

/-- Both tables say the same of each of the names: they bind it with the same type, or neither of
them binds it. -/
def AgreeOn (names : List String) (t u : SymbolTable) : Prop := ∀ x ∈ names, t.lookup x = u.lookup x

/-- Two tables that have come from `t₀` and `u₀`: they agree on the names, and the same bindings
have been added to both. -/
structure Framed (names : List String) (t₀ u₀ t u : SymbolTable) : Prop where
  agree : AgreeOn names t u
  grown : ∃ new, t.entries = t₀.entries ++ new ∧ u.entries = u₀.entries ++ new

variable {names : List String} {t₀ u₀ t u : SymbolTable} {x : String}

lemma AgreeOn.framed (h : AgreeOn names t u) : Framed names t u t u where
  agree := h
  grown := ⟨[], (List.append_nil _).symm, (List.append_nil _).symm⟩

lemma AgreeOn.mem_names_iff (h : AgreeOn names t u) (hx : x ∈ names) :
    x ∈ t.names ↔ x ∈ u.names := by
  rw [← not_iff_not, ← lookup_eq_none_iff, ← lookup_eq_none_iff, h x hx]

/-- The binding of a name that is mentioned changes both tables or neither. -/
lemma Framed.bind (h : Framed names t₀ u₀ t u) (hx : x ∈ names) (b : Binding) :
    Framed names t₀ u₀ (t.bind x b) (u.bind x b) := by
  have hboth := h.agree.mem_names_iff hx
  by_cases hbound : x ∈ t.names
  · rw [bind_of_mem hbound, bind_of_mem (hboth.1 hbound)]
    exact h
  · have hfree : x ∉ u.names := fun hmem => hbound (hboth.2 hmem)
    obtain ⟨new, ht, hu⟩ := h.grown
    constructor
    · intro y hy
      rw [lookup_bind_of_notMem hbound, lookup_bind_of_notMem hfree, h.agree y hy]
    · refine ⟨new ++ [(x, b)], ?_, ?_⟩
      · rw [entries_bind_of_notMem hbound, ht, List.append_assoc]
      · rw [entries_bind_of_notMem hfree, hu, List.append_assoc]

end SymbolTable

/-! ## Two runs of the same statements -/

section

variable {names : List String} {t₀ u₀ t u : SymbolTable} {o : Options}

open Check SymbolTable

lemma Term.typeOf_congr {tm : Term} (h : AgreeOn ((Expr.term tm).names.map Name.text) t u) :
    tm.typeOf t = tm.typeOf u := by
  cases tm with
  | name n =>
      have hlookup : t.lookup n.text = u.lookup n.text := h n.text List.mem_cons_self
      rw [typeOf, typeOf, Name.typeOf, Name.typeOf, hlookup]
  | int _ | string _ | bool _ => rfl

/-- **An expression has the same outcome under tables that agree on its names**, trace included. -/
lemma Expr.typeOf_congr {e : Expr} (h : AgreeOn (e.names.map Name.text) t u) :
    e.typeOf t = e.typeOf u := by
  induction e with
  | term tm => rw [typeOf, typeOf, Term.typeOf_congr h]
  | paren inner span ih => rw [typeOf, typeOf, ih h]
  | binary lhs ops rhs span ihl ihr =>
      rw [names, List.map_append] at h
      have hl := ihl fun x hx => h x (List.mem_append_left _ hx)
      have hr := ihr fun x hx => h x (List.mem_append_right _ hx)
      rw [typeOf, typeOf, hl, hr]

/-- What an assignment does to two framed tables, once its expression has been given a type. -/
lemma Assignment.matches_settle (h : Framed names t₀ u₀ t u) {a : Assignment}
    (ha : a.name.text ∈ names) (ty : Ty) :
    Matches Eq Eq (Framed names t₀ u₀) (a.settle t ty) (a.settle u ty) := by
  unfold settle
  rw [h.agree _ ha]
  split
  · split
    · exact matches_pure h
    · exact matches_report rfl h
  · exact matches_pure h
  · exact (matches_rfl _).bind fun _ _ _ => matches_pure (h.bind ha _)

namespace Visit

lemma uses_subset_mentions {v : Visit} {e : Expr} (he : v.expr? = some e) :
    e.names.map Name.text ⊆ v.mentions := by
  rw [mentions, uses, he, Option.elim_some]
  exact List.subset_append_right _ _

lemma target_mem_mentions {v : Visit} {x : String} (hx : v.target? = some x) : x ∈ v.mentions := by
  rw [mentions, hx]
  exact List.mem_append_left _ List.mem_cons_self

/-- **One visit keeps two tables framed**, and has the same outcome from both. -/
lemma matches_check (h : Framed names t₀ u₀ t u) {v : Visit} (hv : v.mentions ⊆ names) :
    Matches Eq Eq (Framed names t₀ u₀) (v.check o t) (v.check o u) := by
  have htypeOf : ∀ {e}, v.expr? = some e → e.typeOf t = e.typeOf u := fun he =>
    Expr.typeOf_congr fun x hx => h.agree x (hv (uses_subset_mentions he hx))
  have htarget : ∀ {x}, v.target? = some x → x ∈ names := fun hx => hv (target_mem_mentions hx)
  have hassign : ∀ {a : Assignment}, v.expr? = some a.expr → v.target? = some a.name.text →
      Matches Eq Eq (Framed names t₀ u₀) (a.check t) (a.check u) := by
    intro a he hx
    rw [Assignment.check, Assignment.check, htypeOf he]
    refine (matches_rfl _).bind fun ty ty' hty => ?_
    subst hty
    exact Assignment.matches_settle h (htarget hx) ty
  cases v with
  | declare d =>
      have hd := htarget rfl
      rw [check, check, ty_bound, ty_bound, h.agree _ hd]
      exact (matches_rfl _).bind fun _ _ _ => matches_pure (h.bind hd d.binding)
  | initializer d a =>
      rw [check, check]
      split
      · exact hassign rfl rfl
      · exact matches_violate rfl
  | assign a => exact hassign rfl rfl
  | condition e =>
      rw [check, check, htypeOf rfl]
      refine (matches_rfl _).bind fun ty ty' hty => ?_
      subst hty
      exact (matches_rfl _).bind fun _ _ _ => matches_pure h
  | print e =>
      rw [check, check, htypeOf rfl]
      exact (matches_rfl _).bind fun _ _ _ => matches_pure h

/-- **A run keeps two tables framed**, and has the same outcome from both. -/
lemma matches_run_of_framed (h : Framed names t₀ u₀ t u) {vs : List Visit}
    (hvs : vs.flatMap mentions ⊆ names) :
    Matches Eq Eq (Framed names t₀ u₀) (run o vs t) (run o vs u) := by
  have hstep : ∀ v ∈ vs, ∀ t u, Framed names t₀ u₀ t u →
      Matches Eq Eq (Framed names t₀ u₀) (v.check o t) ((id v).check o u) := by
    intro v hv t u htables
    refine matches_check htables fun x hx => ?_
    exact hvs (List.mem_flatMap.2 ⟨v, hv, hx⟩)
  have hrun := matches_run hstep h
  rwa [List.map_id] at hrun

end Visit

end

/-- What two runs of the same statements share, if the first of them yields a table. -/
lemma Visit.yields_of_agreeOn {o : Options} {vs : List Visit} {t u t' : SymbolTable}
    {es : List TypingError} (h : SymbolTable.AgreeOn (vs.flatMap Visit.mentions) t u)
    (ht : (run o vs t).Yields es t') :
    ∃ u' new, (run o vs u).Yields es u' ∧ t'.entries = t.entries ++ new ∧
      u'.entries = u.entries ++ new := by
  obtain ⟨u', hu, hframed⟩ := (matches_run_of_framed h.framed (List.Subset.refl _)).exists_yields ht
  obtain ⟨new, hgrown⟩ := hframed.grown
  exact ⟨u', new, hu, hgrown⟩

/-- **A run sees only the names it mentions.**

Let two tables give the same look-up for every name that occurs in some statements, as a target or
inside an expression.  Checked from either table, with any options, the statements are reported the
same errors.  Both runs yield a table, or both end at the same violation.  The table that a run
started from stays as it was, and both runs add the same bindings to it in the same order.

The last part says so of every moment: what has been added after some of the visits does not depend
on the table either, also if the run ends at a violation later. -/
theorem Stmt.checkAll_frame (ss : List Stmt) (o : Options) (t u : SymbolTable)
    (h : ∀ x ∈ Stmt.mentions ss, t.lookup x = u.lookup x) :
    (Stmt.checkAll o ss t).errors = (Stmt.checkAll o ss u).errors ∧
      ((∃ t' u' new, (Stmt.checkAll o ss t).result = .ok t' ∧
          (Stmt.checkAll o ss u).result = .ok u' ∧
          t'.entries = t.entries ++ new ∧ u'.entries = u.entries ++ new) ∨
        ∃ v, (Stmt.checkAll o ss t).result = .error v ∧
          (Stmt.checkAll o ss u).result = .error v) ∧
      ∀ before, before <+: Stmt.visitsAll ss → ∀ t', (Visit.run o before t).result = .ok t' →
        ∃ u' new, (Visit.run o before u).result = .ok u' ∧
          t'.entries = t.entries ++ new ∧ u'.entries = u.entries ++ new := by
  have hagree : SymbolTable.AgreeOn ((Stmt.visitsAll ss).flatMap Visit.mentions) t u := h
  have hmatches := Visit.matches_run_of_framed (o := o) hagree.framed (List.Subset.refl _)
  rw [Stmt.checkAll_eq_run, Stmt.checkAll_eq_run]
  refine ⟨List.forall₂_eq_eq_eq ▸ hmatches.errors, ?_, ?_⟩
  · cases hmatches with
    | @yields t' u' ht hu _ hframed =>
        obtain ⟨new, hgrown⟩ := hframed.grown
        exact Or.inl ⟨t', u', new, ht, hu, hgrown⟩
    | @violates v w ht hu _ hviolation =>
        subst hviolation
        exact Or.inr ⟨v, ht, hu⟩
  · rintro before ⟨after, hsplit⟩ t' ht'
    have hbefore : SymbolTable.AgreeOn (before.flatMap Visit.mentions) t u := by
      intro x hx
      refine hagree x ?_
      rw [← hsplit, List.flatMap_append]
      exact List.mem_append_left _ hx
    obtain ⟨u', new, hu, hgrown⟩ := Visit.yields_of_agreeOn hbefore ⟨rfl, ht'⟩
    exact ⟨u', new, hu.2, hgrown⟩

/-- Statements that mention `a`, `b`, `c`, `m` and `n`: below a condition, `c` is assigned a sum and
`a` a truth value, and `n` is declared from the unknown name `m`. -/
def mentioning : List Stmt := [
  .ifThen (.binary (.term (.name ⟨"a", .ofLine 1⟩)) [⟨.lessThan, .ofLine 1⟩]
      (.term (.name ⟨"b", .ofLine 1⟩)) (.ofLine 1)) [
    .assign ⟨⟨"c", .ofLine 2⟩,
      .binary (.term (.name ⟨"a", .ofLine 2⟩)) [⟨.add, .ofLine 2⟩] (.term (.int ⟨1, .ofLine 2⟩))
        (.ofLine 2), .ofLine 2⟩,
    .assign ⟨⟨"a", .ofLine 3⟩, .term (.bool ⟨true, .ofLine 3⟩), .ofLine 3⟩] (.ofLine 1),
  .decl ⟨⟨"n", .ofLine 4⟩, ⟨.string, .ofLine 4⟩, some ⟨⟨"n", .ofLine 4⟩,
    .term (.name ⟨"m", .ofLine 4⟩), .ofLine 4⟩, .ofLine 4⟩]

/-- A table with the two names that `mentioning` finds bound. -/
def smallTable : SymbolTable := .ofList [
  ("a", ⟨.base .int, .declared, .ofLine 1⟩), ("b", ⟨.unknown, .inferred, .ofLine 2⟩)]

/-- A table with the same two names in another order, bound elsewhere and in another way, and with
names that `mentioning` does not mention. -/
def largeTable : SymbolTable := .ofList [
  ("x", ⟨.unknown, .inferred, .ofLine 7⟩), ("b", ⟨.unknown, .inferred, .ofLine 9⟩),
  ("y", ⟨.base .string, .declared, .ofLine 8⟩), ("a", ⟨.base .int, .inferred, .ofLine 5⟩)]

/-- The bindings that `mentioning` adds. -/
def mentionedBindings : List (String × Binding) := [
  ("c", ⟨.base .int, .inferred, .ofLine 2⟩), ("n", ⟨.base .string, .declared, .ofLine 4⟩)]

theorem Stmt.checkAll_frame_mentioning :
    (∀ x ∈ Stmt.mentions mentioning, smallTable.lookup x = largeTable.lookup x) ∧
      (Stmt.checkAll {} mentioning largeTable).errors =
        [.assignment (.ofLine 3) ⟨"a", .ofLine 3⟩ .int "true" .bool,
          .unknownName ⟨"m", .ofLine 4⟩] ∧
      ∃ u, (Stmt.checkAll {} mentioning largeTable).result = .ok u ∧
        u.entries = largeTable.entries ++ mentionedBindings := by
  have hagree : ∀ x ∈ Stmt.mentions mentioning, smallTable.lookup x = largeTable.lookup x := by
    decide
  obtain ⟨herrors, htables | ⟨v, hv, -⟩, -⟩ :=
    Stmt.checkAll_frame mentioning {} smallTable largeTable hagree
  · obtain ⟨t', u', new, ht, hu, hgrown, hgrown'⟩ := htables
    obtain rfl := Except.ok.inj ht
    have hnew : smallTable.entries ++ mentionedBindings = smallTable.entries ++ new := hgrown
    obtain rfl := List.append_cancel_left hnew
    exact ⟨hagree, herrors.symm.trans rfl, u', hu, hgrown'⟩
  · cases hv

end ScriptTyping
