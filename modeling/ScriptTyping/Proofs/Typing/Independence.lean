import ScriptTyping.Proofs.Typing.Composition
import ScriptTyping.Proofs.Typing.Frame

/-!
# Independent statements can change places

Two statements are independent if neither of them mentions a name that the other one establishes.
They may share names that both only read.  Either of them then sees the same of the table whether or
not the other has been checked before it, so by the frame property of runs it reports the same
errors and adds the same bindings in both places.

What does change is the order of the table.  Everything that follows runs from a table with the same
entries in another order, and sees no difference, because a look-up does not depend on the order
(`SymbolTable.lookup_congr_of_perm`).

Main statement: `Log.check_swap`.
-/

namespace ScriptTyping

namespace Visit

variable {o : Options} {vs ws : List Visit} {t u : SymbolTable} {es fs : List TypingError}

/-- A run says nothing new of a name that it does not target. -/
lemma lookup_run_of_notMem {x : String} (h : (run o vs t).Yields es u) (hx : x ∉ targets vs) :
    u.lookup x = t.lookup x := by
  by_cases hbound : x ∈ t.names
  · obtain ⟨ty, hty⟩ := SymbolTable.exists_lookup_of_mem hbound
    rw [hty]
    exact SymbolTable.lookup_of_isPrefix (isPrefix_run h) hty
  · have hfree : x ∉ u.names := by
      rw [mem_names_run h]
      exact not_or.2 ⟨hbound, hx⟩
    rw [SymbolTable.lookup_eq_none_iff.2 hbound, SymbolTable.lookup_eq_none_iff.2 hfree]

/-- A run that mentions no target of another one sees the same table before and after it. -/
lemma agreeOn_run (h : (run o vs t).Yields es u)
    (hvs : ∀ x ∈ targets vs, x ∉ ws.flatMap mentions) :
    SymbolTable.AgreeOn (ws.flatMap mentions) u t := by
  intro x hx
  exact lookup_run_of_notMem h fun htarget => hvs x htarget hx

/-- **Independent runs change places.** Each reports the same as before, and the tables at the end
have the same entries. -/
lemma swap_yields {t₁ t₂ : SymbolTable} (hvs : ∀ x ∈ targets vs, x ∉ ws.flatMap mentions)
    (hws : ∀ x ∈ targets ws, x ∉ vs.flatMap mentions) (h₁ : (run o vs t).Yields es t₁)
    (h₂ : (run o ws t₁).Yields fs t₂) :
    ∃ u₁ u₂, (run o ws t).Yields fs u₁ ∧ (run o vs u₁).Yields es u₂ ∧
      t₂.entries.Perm u₂.entries := by
  have hsame₁ : SymbolTable.AgreeOn (ws.flatMap mentions) t₁ t := agreeOn_run h₁ hvs
  obtain ⟨u₁, added, hu₁, ht₂, hadded⟩ := yields_of_agreeOn hsame₁ h₂
  have hsame₂ : SymbolTable.AgreeOn (vs.flatMap mentions) t u₁ := fun x hx =>
    (agreeOn_run hu₁ hws x hx).symm
  obtain ⟨u₂, added', hu₂, ht₁, hadded'⟩ := yields_of_agreeOn hsame₂ h₁
  refine ⟨u₁, u₂, hu₁, hu₂, ?_⟩
  rw [ht₂, ht₁, hadded', hadded, List.append_assoc, List.append_assoc]
  exact List.Perm.append_left _ List.perm_append_comm

/-- A run does not depend on the order of its table. -/
lemma yields_of_perm {t' : SymbolTable} (hperm : t.entries.Perm u.entries)
    (h : (run o vs t).Yields es t') :
    ∃ u', (run o vs u).Yields es u' ∧ t'.entries.Perm u'.entries := by
  have hsame : SymbolTable.AgreeOn (vs.flatMap mentions) t u := fun x _ =>
    SymbolTable.lookup_congr_of_perm hperm x
  obtain ⟨u', new, hu', ht, hu⟩ := yields_of_agreeOn hsame h
  refine ⟨u', hu', ?_⟩
  rw [ht, hu]
  exact hperm.append_right new

end Visit

/-- A run over statements, cut in two. -/
lemma Stmt.checkAll_append_yields_iff {o : Options} {as bs : List Stmt} {t u : SymbolTable}
    {es : List TypingError} : (Stmt.checkAll o (as ++ bs) t).Yields es u ↔
      ∃ es₁ t' es₂, (Stmt.checkAll o as t).Yields es₁ t' ∧ (Stmt.checkAll o bs t').Yields es₂ u ∧
        es = es₁ ++ es₂ := by
  rw [Stmt.checkAll_append, Check.yields_bind_iff]

/-- Neither of two statements mentions a name that the other one declares or assigns to, at any
depth. -/
def Stmt.Independent (s₁ s₂ : Stmt) : Prop :=
  (∀ x ∈ Stmt.targets [s₁], x ∉ Stmt.mentions [s₂]) ∧
    ∀ x ∈ Stmt.targets [s₂], x ∉ Stmt.mentions [s₁]

instance (s₁ s₂ : Stmt) : Decidable (Stmt.Independent s₁ s₂) :=
  inferInstanceAs (Decidable (_ ∧ _))

/-- Independent statements change places, and the statements after them do not notice. -/
lemma Stmt.Independent.yields_swap {s₁ s₂ : Stmt} (hs : Stmt.Independent s₁ s₂) {o : Options}
    {q : List Stmt} {r t₀ t : SymbolTable} {es after : List TypingError}
    (h : (Stmt.checkAll o [s₁, s₂] r).Yields es t₀) (hq : (Stmt.checkAll o q t₀).Yields after t) :
    ∃ e₁ e₂ u₀ u, es = e₁ ++ e₂ ∧ (Stmt.checkAll o [s₂, s₁] r).Yields (e₂ ++ e₁) u₀ ∧
      (Stmt.checkAll o q u₀).Yields after u ∧ t.entries.Perm u.entries := by
  have hparts : (Stmt.checkAll o ([s₁] ++ [s₂]) r).Yields es t₀ := h
  obtain ⟨e₁, t₁, e₂, h₁, h₂, rfl⟩ := Stmt.checkAll_append_yields_iff.1 hparts
  rw [Stmt.checkAll_eq_run] at h₁ h₂ hq
  obtain ⟨u₁, u₀, hu₁, hu₀, hperm⟩ := Visit.swap_yields hs.1 hs.2 h₁ h₂
  obtain ⟨u, hu, hperm'⟩ := Visit.yields_of_perm hperm hq
  rw [← Stmt.checkAll_eq_run] at hu₁ hu₀ hu
  have hswapped : (Stmt.checkAll o ([s₂] ++ [s₁]) r).Yields (e₂ ++ e₁) u₀ :=
    Stmt.checkAll_append_yields_iff.2 ⟨e₂, u₁, e₁, hu₁, hu₀, rfl⟩
  exact ⟨e₁, e₂, u₀, u, rfl, hswapped, hu, hperm'⟩

/-- What a program made of three parts leaves in a log, if the parts yield tables one after
another. -/
lemma Log.check_of_parts {p m q : List Stmt} {o : Options} {r t₀ t : SymbolTable}
    {before middle after : List TypingError} (hp : (Stmt.checkAll o p .empty).Yields before r)
    (hm : (Stmt.checkAll o m r).Yields middle t₀) (hq : (Stmt.checkAll o q t₀).Yields after t)
    (l : Log) (span : Span) :
    (l.check o ⟨p ++ m ++ q, span⟩).1.entries =
        l.entries ++ (before ++ middle ++ after).map TypingError.diagnostic ∧
      (l.check o ⟨p ++ m ++ q, span⟩).2 = .ok t := by
  have hall : (Stmt.checkAll o (p ++ m ++ q) .empty).Yields (before ++ middle ++ after) t := by
    refine Stmt.checkAll_append_yields_iff.2 ⟨before ++ middle, t₀, after, ?_, hq, rfl⟩
    exact Stmt.checkAll_append_yields_iff.2 ⟨before, r, middle, hp, hm, rfl⟩
  rw [Stmt.checkAll_eq_run] at hall
  exact l.check_of_yields hall

/-- **Independent statements commute.**

Take a program in which two independent statements stand next to each other, between any `p` and
`q`, and let its check yield a table, on any log and with any options.  With the two statements in
the other order, the check yields a table with the same bindings, and the reports of one run are a
permutation of those of the other.

More exactly, `p` and `q` are reported the same errors in the same order in both runs, and so is
each of the two statements; only the reports of the two change places with the statements. -/
theorem Log.check_swap (p q : List Stmt) (s₁ s₂ : Stmt) (hs : Stmt.Independent s₁ s₂) (o : Options)
    (l : Log) (span span' : Span) (t : SymbolTable)
    (hok : (l.check o ⟨p ++ [s₁, s₂] ++ q, span⟩).2 = .ok t) :
    ∃ u new new', (l.check o ⟨p ++ [s₂, s₁] ++ q, span'⟩).2 = .ok u ∧ t.sameBindings u = true ∧
      (l.check o ⟨p ++ [s₁, s₂] ++ q, span⟩).1.entries = l.entries ++ new ∧
      (l.check o ⟨p ++ [s₂, s₁] ++ q, span'⟩).1.entries = l.entries ++ new' ∧
      new.Perm new' ∧
      ∃ before e₁ e₂ after r t₀ u₀,
        new = (before ++ (e₁ ++ e₂) ++ after).map TypingError.diagnostic ∧
        new' = (before ++ (e₂ ++ e₁) ++ after).map TypingError.diagnostic ∧
        (Stmt.checkAll o p .empty).Yields before r ∧
        (Stmt.checkAll o [s₁, s₂] r).Yields (e₁ ++ e₂) t₀ ∧
        (Stmt.checkAll o q t₀).Yields after t ∧
        (Stmt.checkAll o [s₂, s₁] r).Yields (e₂ ++ e₁) u₀ ∧
        (Stmt.checkAll o q u₀).Yields after u := by
  rw [Log.check_eq_checkAll] at hok
  obtain ⟨es, t₀, after, hpm, hq, -⟩ := Stmt.checkAll_append_yields_iff.1 ⟨rfl, hok⟩
  obtain ⟨before, r, middle, hp, hm, -⟩ := Stmt.checkAll_append_yields_iff.1 hpm
  obtain ⟨e₁, e₂, u₀, u, rfl, hm', hq', hperm⟩ := hs.yields_swap hm hq
  obtain ⟨hentries, -⟩ := Log.check_of_parts hp hm hq l span
  obtain ⟨hentries', hok'⟩ := Log.check_of_parts hp hm' hq' l span'
  have hnew : (before ++ (e₁ ++ e₂) ++ after).Perm (before ++ (e₂ ++ e₁) ++ after) :=
    (List.perm_append_comm.append_left before).append_right after
  exact ⟨u, _, _, hok', SymbolTable.sameBindings_of_perm hperm, hentries, hentries', hnew.map _,
    before, e₁, e₂, after, r, t₀, u₀, rfl, rfl, hp, hm, hq, hm', hq'⟩

/-- A conditional that reads `a`, assigns to `b` and declares `c` from an unknown name. -/
def assignsB : Stmt :=
  .ifThen (.binary (.term (.name ⟨"a", .ofLine 2⟩)) [⟨.equals, .ofLine 2⟩]
      (.term (.int ⟨1, .ofLine 2⟩)) (.ofLine 2)) [
    .assign ⟨⟨"b", .ofLine 3⟩, .term (.name ⟨"a", .ofLine 3⟩), .ofLine 3⟩,
    .decl ⟨⟨"c", .ofLine 4⟩, ⟨.bool, .ofLine 4⟩, some ⟨⟨"c", .ofLine 4⟩,
      .term (.name ⟨"z", .ofLine 4⟩), .ofLine 4⟩, .ofLine 4⟩] (.ofLine 2)

/-- A conditional that reads `a` and assigns an ill-typed sum to `d`. -/
def assignsD : Stmt :=
  .ifThen (.term (.bool ⟨true, .ofLine 5⟩)) [
    .assign ⟨⟨"d", .ofLine 6⟩,
      .binary (.term (.name ⟨"a", .ofLine 6⟩)) [⟨.add, .ofLine 6⟩]
        (.term (.string ⟨"s", .ofLine 6⟩)) (.ofLine 6), .ofLine 6⟩] (.ofLine 5)

/-- A declaration of `a`, which both conditionals read. -/
def declaresA : List Stmt :=
  [.decl ⟨⟨"a", .ofLine 1⟩, ⟨.int, .ofLine 1⟩, none, .ofLine 1⟩]

/-- Statements that read all the names and assign a truth value to `b`. -/
def readsAll : List Stmt := [
  .assign ⟨⟨"b", .ofLine 7⟩, .term (.name ⟨"c", .ofLine 7⟩), .ofLine 7⟩,
  .print (.binary (.term (.name ⟨"d", .ofLine 8⟩)) [⟨.add, .ofLine 8⟩]
    (.term (.name ⟨"b", .ofLine 8⟩)) (.ofLine 8)) (.ofLine 8)]

theorem Log.check_swap_conditionals :
    Stmt.Independent assignsB assignsD ∧
      ∃ t u, (Log.empty.check {} ⟨declaresA ++ [assignsB, assignsD] ++ readsAll, .ofLine 1⟩).2 =
          .ok t ∧
        (Log.empty.check {} ⟨declaresA ++ [assignsD, assignsB] ++ readsAll, .ofLine 1⟩).2 =
          .ok u ∧
        t.names = ["a", "b", "c", "d"] ∧ u.names = ["a", "d", "b", "c"] ∧
        t.sameBindings u = true ∧
        (Log.empty.check {} ⟨declaresA ++ [assignsD, assignsB] ++ readsAll, .ofLine 1⟩).1.entries =
          [(TypingError.operands (.ofLine 6) .int .string).diagnostic,
            (TypingError.unknownName ⟨"z", .ofLine 4⟩).diagnostic,
            (TypingError.assignment (.ofLine 7) ⟨"b", .ofLine 7⟩ .int "c" .bool).diagnostic] := by
  have hs : Stmt.Independent assignsB assignsD := by decide
  obtain ⟨u, new, new', hok, hsame, -⟩ := Log.check_swap declaresA readsAll assignsB assignsD hs {}
    .empty (.ofLine 1) (.ofLine 1) _ rfl
  have hnames : u.names = ["a", "d", "b", "c"] := by
    obtain rfl := Except.ok.inj hok
    rfl
  exact ⟨hs, _, u, rfl, hok, rfl, hnames, hsame, rfl⟩

end ScriptTyping
