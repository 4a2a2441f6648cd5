import ScriptTyping.Proofs.Typing.Structure

/-!
# The table is written by first targets

Declarations, initializers and assignments all write the one table of a run, from any depth of
nested bodies, and of all that target a name only the first has an effect.  So the table at the end
can be read off the traversal: its names are the targets of the visits in order, each at its first
place, and what it says of a name is what the first visit with that target had to say.

* `Visit.names_run` computes the names of the table from the targets alone.
* `Visit.find?_run` computes a binding from the visit that comes first: what a declaration asks for,
  or the type that an assigned expression has under the table at that point.
* `Visit.isPrefix_run` is why neither is disturbed later: all that follows a point of the traversal
  leaves the table of that point in place, at the front.
-/

namespace ScriptTyping

/-- Where `before` has been visited, this visit gives its target the binding `b`: that of the
declaration, or the type of the assigned expression under the table that `before` leads to.  A visit
without a target gives no binding. -/
def Visit.Establishes (o : Options) (before : List Visit) (b : Binding) : Visit → Prop
  | declare d => b = ⟨.base d.ty.value, .declared, d.span⟩
  | initializer _ a | assign a => ∃ t ty, (run o before .empty).result = .ok t ∧
      (a.expr.typeOf t).result = .ok ty ∧ b = ⟨ty, .inferred, a.span⟩
  | condition _ | print _ => False

namespace Visit

variable {o : Options} {t u : SymbolTable} {es : List TypingError} {v : Visit} {vs : List Visit}
  {x : String}

/-! ## Names -/

lemma names_effect {ty : Ty} :
    (v.effect t ty).names = t.names ++ v.target?.toList.removeAll t.names := by
  cases v with
  | declare _ | initializer _ _ | assign _ => exact SymbolTable.names_bind
  | condition _ | print _ => exact (List.append_nil _).symm

/-- The names of the table after a run: those it had, followed by the targets that are new to it,
each at its first place. -/
lemma names_run (h : (run o vs t).Yields es u) :
    u.names = t.names ++ ((targets vs).removeAll t.names).eraseDups := by
  induction vs generalizing t es with
  | nil =>
      obtain ⟨-, rfl⟩ := run_nil_yields_iff.1 h
      simp [List.removeAll]
  | cons v vs ih =>
      obtain ⟨es₁, t', es₂, hv, hvs, -⟩ := run_cons_yields_iff.1 h
      obtain ⟨ty, rfl⟩ := exists_effect hv
      rw [ih hvs, names_effect, targets_cons, eraseDups_removeAll]

/-! ## Bindings -/

/-- A visit whose target is free gives it the binding that it establishes. -/
lemma find?_check {before : List Visit} (ht : (run o before .empty).result = .ok t)
    (hv : (v.check o t).Yields es u) (hx : v.target? = some x) (hfree : x ∉ t.names) :
    ∃ b, u.find? x = some b ∧ v.Establishes o before b := by
  rcases v.eq_declare_or_expr with ⟨d, rfl⟩ | ⟨e, he⟩
  · obtain rfl : d.name.text = x := Option.some.inj hx
    obtain ⟨-, rfl⟩ := declare_yields_iff.1 hv
    exact ⟨d.binding, SymbolTable.find?_bind_self hfree, rfl⟩
  · obtain ⟨-, es₁, ty, hty, -, rfl⟩ := (check_yields_iff he).1 hv
    cases v with
    | declare _ => cases he
    | initializer _ a | assign a =>
        obtain rfl : a.expr = e := Option.some.inj he
        obtain rfl : a.name.text = x := Option.some.inj hx
        exact ⟨a.binding ty, SymbolTable.find?_bind_self hfree, t, ty, ht, hty.2, rfl⟩
    | condition _ | print _ => cases hx

/-- **The first visit with a target fixes its binding** for the rest of a run. -/
lemma find?_run {before after : List Visit}
    (h : (run o (before ++ v :: after) .empty).Yields es u) (hx : v.target? = some x)
    (hfirst : x ∉ targets before) : ∃ b, u.find? x = some b ∧ v.Establishes o before b := by
  rw [run_append] at h
  obtain ⟨es₁, t₁, es₂, hbefore, hrest, -⟩ := Check.yields_bind_iff.1 h
  obtain ⟨es₃, t₂, es₄, hv, hafter, -⟩ := run_cons_yields_iff.1 hrest
  have hfree : x ∉ t₁.names := by
    rw [mem_names_run hbefore]
    simpa using hfirst
  obtain ⟨b, hb, hestablishes⟩ := find?_check hbefore.2 hv hx hfree
  exact ⟨b, SymbolTable.find?_of_isPrefix (isPrefix_run hafter) hb, hestablishes⟩

end Visit

/-- **The table of a program is written by first targets.**

Checking a well-formed program, on any log and with any options, yields a table

* whose names are the targets of the traversal in order, later occurrences left out;
* in which every name has the binding that the first visit with that target establishes;
* at the front of which the table of every earlier point of the traversal is found unchanged. -/
theorem Log.check_table_of_first_targets (p : Program) (hp : p.WellFormed) (o : Options)
    (l : Log) :
    ∃ t, (l.check o p).2 = .ok t ∧
      t.names = (Visit.targets p.visits).eraseDups ∧
      Visit.Throughout (fun before v => ∀ x, v.target? = some x → x ∉ Visit.targets before →
        ∃ b, t.find? x = some b ∧ v.Establishes o before b) p.visits ∧
      ∀ before after, p.visits = before ++ after →
        ∃ u, (Visit.run o before .empty).result = .ok u ∧ u.entries <+: t.entries := by
  obtain ⟨es, t, h⟩ := hp.exists_yields o .empty
  refine ⟨t, (l.check_of_yields h).2, ?_, ?_, ?_⟩
  · simpa [List.removeAll] using Visit.names_run h
  · intro before v after hsplit x hx hfirst
    rw [hsplit] at h
    exact Visit.find?_run h hx hfirst
  · intro before after hsplit
    rw [hsplit, Visit.run_append] at h
    obtain ⟨es₁, u, es₂, hbefore, hafter, -⟩ := Check.yields_bind_iff.1 h
    exact ⟨u, hbefore.2, Visit.isPrefix_run hafter⟩

/-- A program that targets `x` and `y` more than once: `x` by an ill-typed assignment below a
condition and then by a declaration, `y` by a declaration with an initializer and then by an
assignment of another type. -/
def rewrites : Program where
  stmts := [
    .ifThen (.term (.bool ⟨true, .ofLine 1⟩)) [
      .assign ⟨⟨"x", .ofLine 2⟩,
        .binary (.term (.string ⟨"a", .ofLine 2⟩)) [⟨.add, .ofLine 2⟩]
          (.term (.int ⟨1, .ofLine 2⟩)) (.ofLine 2), .ofLine 2⟩,
      .decl ⟨⟨"y", .ofLine 3⟩, ⟨.string, .ofLine 3⟩, some ⟨⟨"y", .ofLine 3⟩,
        .term (.name ⟨"x", .ofLine 3⟩), .ofLine 3⟩, .ofLine 3⟩] (.ofLine 1),
    .decl ⟨⟨"x", .ofLine 4⟩, ⟨.int, .ofLine 4⟩, none, .ofLine 4⟩,
    .assign ⟨⟨"z", .ofLine 5⟩, .term (.name ⟨"y", .ofLine 5⟩), .ofLine 5⟩,
    .assign ⟨⟨"y", .ofLine 6⟩, .term (.int ⟨2, .ofLine 6⟩), .ofLine 6⟩]
  span := .ofLine 1

theorem Log.check_table_rewrites :
    rewrites.WellFormed ∧ ∃ t, (Log.empty.check {} rewrites).2 = .ok t ∧
      t.names = ["x", "y", "z"] ∧ t.find? "x" = some ⟨.unknown, .inferred, .ofLine 2⟩ ∧
      t.find? "y" = some ⟨.base .string, .declared, .ofLine 3⟩ ∧
      t.find? "z" = some ⟨.base .string, .inferred, .ofLine 5⟩ := by
  have hp : rewrites.WellFormed := by decide
  obtain ⟨t, hok, hnames, hfirst, -⟩ := Log.check_table_of_first_targets rewrites hp {} .empty
  refine ⟨hp, t, hok, hnames.trans (by decide), ?_, ?_, ?_⟩
  · obtain ⟨b, hb, t₁, ty, ht₁, hty, rfl⟩ := hfirst (rewrites.visits.take 1) _
      (rewrites.visits.drop 2) rfl "x" rfl (by decide)
    cases ht₁
    cases hty
    exact hb
  · obtain ⟨b, hb, rfl⟩ := hfirst (rewrites.visits.take 2) _ (rewrites.visits.drop 3) rfl "y" rfl
      (by decide)
    exact hb
  · obtain ⟨b, hb, t₁, ty, ht₁, hty, rfl⟩ := hfirst (rewrites.visits.take 5) _
      (rewrites.visits.drop 6) rfl "z" rfl (by decide)
    cases ht₁
    cases hty
    exact hb

end ScriptTyping
