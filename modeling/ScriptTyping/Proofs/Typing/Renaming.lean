import Mathlib.Data.Set.Function
import ScriptTyping.Proofs.Typing.Frame

/-!
# Names are only compared

A name means nothing to the checker but itself: all it does with one is to ask whether it is equal
to another.  So a program can be given other names, and as long as different names stay different,
the run over it is the run over the old program with the names replaced.

`Program.rename` replaces the names of a program and keeps everything else.  What becomes of a
report is not determined by the report alone, because an error about an assignment quotes the text
of an expression, and two expressions can have the same text before a renaming and different ones
after it.  `Visit.attributed` therefore lists the reports of a run together with the visits that
make them, and `Visit.renameError` quotes from the renamed visit.

The invariant is `SymbolTable.Renamed`: one table has the entries of the other under new names, in
the same order.  That different names stay different is needed for a look-up
(`SymbolTable.Renamed.lookup_eq`) and for the target of an initializer, and nowhere else.

Main statement: `Log.check_renamed`.
-/

namespace ScriptTyping

/-! ## Renaming -/

/-- Another name at the same place. -/
def Name.rename (r : String → String) (n : Name) : Name := ⟨r n.text, n.span⟩

def Term.rename (r : String → String) : Term → Term
  | .name n => .name (n.rename r)
  | .int l => .int l
  | .string l => .string l
  | .bool l => .bool l

/-- The expression with its names replaced. -/
def Expr.rename (r : String → String) : Expr → Expr
  | .term t => .term (t.rename r)
  | .binary lhs ops rhs span => .binary (lhs.rename r) ops (rhs.rename r) span
  | .paren inner span => .paren (inner.rename r) span

/-- Replaces names and leaves every part where it is. -/
def Rewriting.renaming (r : String → String) : Rewriting := ⟨Name.rename r, Expr.rename r, id⟩

/-- The program with its names replaced, at every depth: declared and assigned ones, targets of
initializers and names in expressions. -/
def Program.rename (r : String → String) (p : Program) : Program := p.rewrite (.renaming r)

/-- The visit with its names replaced. -/
def Visit.rename (r : String → String) (v : Visit) : Visit := v.rewrite (.renaming r)

/-- The violation with its names replaced. -/
def Violation.rename (r : String → String) : Violation → Violation
  | operatorChain span count => operatorChain span count
  | initializerTarget declared target => initializerTarget (declared.rename r) (target.rename r)

/-- The error with its names replaced, and with `quoted` as the text of the expression that it
quotes, if it quotes one. -/
def TypingError.rename (r : String → String) (quoted : String) : TypingError → TypingError
  | unknownName n => unknownName (n.rename r)
  | operands span lhs rhs => operands span lhs rhs
  | assignment span n expected _ actual => assignment span (n.rename r) expected quoted actual
  | condition span ty => condition span ty

/-- What becomes of an error that the visit reports: it has other names, and it quotes the renamed
expression of the visit. -/
def Visit.renameError (r : String → String) (v : Visit) (e : TypingError) : TypingError :=
  e.rename r ((v.rename r).expr?.elim "" Expr.text)

/-- The errors that a run reports, in order and each with the visit that reports it. -/
def Visit.attributed (o : Options) : List Visit → SymbolTable → List (Visit × TypingError)
  | [], _ => []
  | v :: vs, t =>
    (v.check o t).errors.map (v, ·) ++
      match (v.check o t).result with
      | .ok u => attributed o vs u
      | .error _ => []

/-- The attributed errors are all that a run reports. -/
lemma Visit.map_snd_attributed (o : Options) (vs : List Visit) (t : SymbolTable) :
    (attributed o vs t).map Prod.snd = (run o vs t).errors := by
  induction vs generalizing t with
  | nil => rfl
  | cons v vs ih =>
      have hown : ((v.check o t).errors.map (v, ·)).map Prod.snd = (v.check o t).errors := by
        simp [Function.comp_def]
      rw [attributed, run_cons, List.map_append, hown]
      cases h : (v.check o t).result with
      | ok u => rw [Check.errors_bind_of_ok h, ih]
      | error w => rw [Check.errors_bind_of_error h, List.map_nil, List.append_nil]

/-! ## Renamed tables -/

/-- The second table has the entries of the first under new names, and no name of the first is
outside of `xs`. -/
structure SymbolTable.Renamed (r : String → String) (xs : List String) (t u : SymbolTable) :
    Prop where
  entries : u.entries = t.entries.map fun e => (r e.1, e.2)
  within : ∀ x ∈ t.names, x ∈ xs

section

variable {r : String → String} {xs : List String} {t u : SymbolTable} {x : String}
  {o : Options}

open Check

namespace SymbolTable

lemma renamed_empty : Renamed r xs empty empty where
  entries := rfl
  within := by simp

/-- **Looking up a new name finds what the old name is bound to**, since no other name has become
the same. -/
lemma Renamed.find?_eq (h : Renamed r xs t u) (hr : Set.InjOn r {x | x ∈ xs})
    (hx : x ∈ xs) : u.find? (r x) = t.find? x := by
  ext b
  rw [find?_eq_some_iff, find?_eq_some_iff, h.entries, List.mem_map]
  constructor
  · rintro ⟨e, he, heq⟩
    obtain ⟨hname, rfl⟩ := Prod.mk.inj heq
    have hmem : e.1 ∈ t.names := List.mem_map_of_mem he
    obtain rfl := hr (h.within e.1 hmem) hx hname
    exact he
  · intro he
    exact ⟨(x, b), he, rfl⟩

lemma Renamed.lookup_eq (h : Renamed r xs t u) (hr : Set.InjOn r {x | x ∈ xs})
    (hx : x ∈ xs) : u.lookup (r x) = t.lookup x := by
  rw [lookup, lookup, h.find?_eq hr hx]

/-- A binding keeps tables renamed, if it binds corresponding names. -/
lemma Renamed.bind (h : Renamed r xs t u) (hr : Set.InjOn r {x | x ∈ xs}) (hx : x ∈ xs)
    (b : Binding) : Renamed r xs (t.bind x b) (u.bind (r x) b) := by
  have hboth : r x ∈ u.names ↔ x ∈ t.names := by
    rw [← not_iff_not, ← lookup_eq_none_iff, ← lookup_eq_none_iff, h.lookup_eq hr hx]
  by_cases hbound : x ∈ t.names
  · rw [bind_of_mem hbound, bind_of_mem (hboth.2 hbound)]
    exact h
  · have hfree : r x ∉ u.names := fun hmem => hbound (hboth.1 hmem)
    constructor
    · rw [entries_bind_of_notMem hbound, entries_bind_of_notMem hfree, h.entries]
      simp
    · intro y hy
      rcases mem_names_bind.1 hy with hy | rfl
      · exact h.within y hy
      · exact hx

end SymbolTable

/-! ## Expressions -/

/-- Two computations match up to a renaming, where errors that quote an expression quote the text
`quoted` in the second. -/
def Check.MatchesRenamed {α β : Type} (r : String → String) (quoted : String) (A : α → β → Prop)
    (c : Check α) (d : Check β) : Prop :=
  Matches (fun e e' => e.rename r quoted = e') (fun v w => v.rename r = w) A c d

lemma Term.matches_rename (htables : SymbolTable.Renamed r xs t u)
    (hr : Set.InjOn r {x | x ∈ xs}) {tm : Term}
    (htm : ∀ n ∈ (Expr.term tm).names, n.text ∈ xs) (quoted : String) :
    MatchesRenamed r quoted Eq (tm.typeOf t) ((tm.rename r).typeOf u) := by
  cases tm with
  | name n =>
      have hlookup : u.lookup (n.rename r).text = t.lookup n.text :=
        htables.lookup_eq hr (htm n (by simp [Expr.names]))
      rw [rename, typeOf, typeOf, Name.typeOf, Name.typeOf, hlookup]
      cases t.lookup n.text with
      | some ty => exact matches_pure rfl
      | none => exact matches_report rfl rfl
  | int _ | string _ | bool _ => exact matches_pure rfl

/-- An operator sees types only, so it does the same under all names. -/
lemma Operator.matches_rename (op : Operator) (span : Span) (l r' : Ty) (quoted : String) :
    MatchesRenamed r quoted Eq (op.typeOf span l r') (op.typeOf span l r') := by
  rcases l with a | _ <;> rcases r' with b | _
  case base.base =>
    rw [typeOf]
    split
    · exact matches_pure rfl
    · exact matches_report rfl rfl
  all_goals exact matches_pure rfl

/-- **An expression has the same type under new names**, and what it reports is renamed. -/
lemma Expr.matches_rename (htables : SymbolTable.Renamed r xs t u)
    (hr : Set.InjOn r {x | x ∈ xs}) {e : Expr} (he : ∀ n ∈ e.names, n.text ∈ xs)
    (quoted : String) : MatchesRenamed r quoted Eq (e.typeOf t) ((e.rename r).typeOf u) := by
  induction e with
  | term tm => exact (Term.matches_rename htables hr he quoted).bind_trace _ _
  | paren inner span ih => exact (ih he).bind_trace _ _
  | binary lhs ops rhs span ihl ihr =>
      have hlhs := ihl fun n hn => he n (by simp [names, hn])
      have hrhs := ihr fun n hn => he n (by simp [names, hn])
      rw [rename, typeOf, typeOf]
      cases singleOperator? ops with
      | none => exact matches_violate rfl
      | some op =>
          apply hlhs.bind
          intro l l' hl
          apply hrhs.bind
          intro r' r'' hr'
          subst hl hr'
          exact (op.matches_rename span l r' quoted).bind_trace _ _

/-! ## Visits -/

lemma Assignment.matches_rename (htables : SymbolTable.Renamed r xs t u)
    (hr : Set.InjOn r {x | x ∈ xs}) {a : Assignment} (hname : a.name.text ∈ xs)
    (hexpr : ∀ n ∈ a.expr.names, n.text ∈ xs) :
    MatchesRenamed r (a.expr.rename r).text (SymbolTable.Renamed r xs) (a.check t)
      ((a.rewrite (.renaming r)).check u) := by
  apply (Expr.matches_rename htables hr hexpr _).bind
  intro ty ty' hty
  subst hty
  have hlookup : u.lookup (a.rewrite (.renaming r)).name.text = t.lookup a.name.text :=
    htables.lookup_eq hr hname
  unfold settle
  rw [hlookup]
  split
  · split
    · exact matches_pure htables
    · exact matches_report rfl htables
  · exact matches_pure htables
  · exact .yields rfl rfl .nil (htables.bind hr hname _)

lemma Decl.matches_noteRedeclaration (d : Decl) (ty : Ty) (quoted : String) :
    MatchesRenamed r quoted (fun _ _ => True) (d.noteRedeclaration ty)
      ((d.rewrite (.renaming r)).noteRedeclaration ty) := by
  have hty : (d.rewrite (.renaming r)).ty.value = d.ty.value := rfl
  rw [noteRedeclaration, noteRedeclaration, hty]
  split
  · exact matches_pure trivial
  · exact .yields rfl rfl .nil trivial

lemma Expr.span_rename (e : Expr) : (e.rename r).span = e.span := by
  cases e with
  | term tm => cases tm <;> rfl
  | binary _ _ _ _ | paren _ _ => rfl

lemma Options.matches_checkCondition (e : Expr) (ty : Ty) (quoted : String) :
    MatchesRenamed r quoted (fun _ _ => True) (o.checkCondition e ty)
      (o.checkCondition (e.rename r) ty) := by
  rw [checkCondition, checkCondition, e.span_rename]
  split
  · exact .yields rfl rfl (.cons rfl .nil) trivial
  · exact matches_pure trivial

/-- The names of a visit are among `xs`, that of the declaration too if it visits an initializer. -/
structure Visit.Within (xs : List String) (v : Visit) : Prop where
  mentions : v.mentions ⊆ xs
  declared : ∀ d a, v = .initializer d a → d.name.text ∈ xs

namespace Visit

/-- **A visit and its renaming go the same way**, from tables that are renamed likewise. -/
lemma matches_rename (htables : SymbolTable.Renamed r xs t u) (hr : Set.InjOn r {x | x ∈ xs})
    {v : Visit} (hv : v.Within xs) :
    Matches (fun e e' => v.renameError r e = e') (fun w w' => w.rename r = w')
      (SymbolTable.Renamed r xs) (v.check o t) ((v.rename r).check o u) := by
  have huses : ∀ {e}, v.expr? = some e → ∀ n ∈ e.names, n.text ∈ xs := fun he n hn =>
    hv.mentions (uses_subset_mentions he (List.mem_map_of_mem hn))
  have htarget : ∀ {x}, v.target? = some x → x ∈ xs := fun hx =>
    hv.mentions (target_mem_mentions hx)
  cases v with
  | declare d =>
      have hd : d.name.text ∈ xs := htarget rfl
      have hty : (u.bound (r d.name.text) d.binding).ty = (t.bound d.name.text d.binding).ty := by
        rw [SymbolTable.ty_bound, SymbolTable.ty_bound, htables.lookup_eq hr hd]
      have hnote : MatchesRenamed r "" (fun _ _ => True)
          (d.noteRedeclaration (t.bound d.name.text d.binding).ty)
          ((d.rewrite (.renaming r)).noteRedeclaration
            (u.bound (r d.name.text) d.binding).ty) := by
        rw [hty]
        exact d.matches_noteRedeclaration _ _
      exact hnote.bind fun _ _ _ => matches_pure (htables.bind hr hd d.binding)
  | initializer d a =>
      have ha : a.name.text ∈ xs := htarget rfl
      -- The one place, apart from the table, where two names are compared.
      have hsame : r a.name.text = r d.name.text ↔ a.name.text = d.name.text :=
        hr.eq_iff ha (hv.declared d a rfl)
      have hassign := Assignment.matches_rename htables hr ha (huses rfl)
      show Matches _ _ _ (if a.name.text = d.name.text then a.check t else _)
        (if r a.name.text = r d.name.text then (a.rewrite (.renaming r)).check u else _)
      simp only [hsame]
      split
      · exact hassign
      · exact matches_violate rfl
  | assign a => exact Assignment.matches_rename htables hr (htarget rfl) (huses rfl)
  | condition e =>
      apply (Expr.matches_rename htables hr (huses rfl) _).bind
      intro ty ty' hty
      subst hty
      exact (Options.matches_checkCondition e ty _).bind fun _ _ _ => matches_pure htables
  | print e =>
      exact (Expr.matches_rename htables hr (huses rfl) _).bind fun _ _ _ => matches_pure htables

/-- **A run and its renaming go the same way.** The errors of the second run are those of the first
one, each as its visit renames it. -/
lemma renamed_run {vs : List Visit} (htables : SymbolTable.Renamed r xs t u)
    (hr : Set.InjOn r {x | x ∈ xs}) (hvs : ∀ v ∈ vs, v.Within xs) :
    (run o (vs.map (rename r)) u).errors =
        (attributed o vs t).map (fun a => a.1.renameError r a.2) ∧
      ((∃ t' u', (run o vs t).result = .ok t' ∧ (run o (vs.map (rename r)) u).result = .ok u' ∧
          SymbolTable.Renamed r xs t' u') ∨
        ∃ w, (run o vs t).result = .error w ∧
          (run o (vs.map (rename r)) u).result = .error (w.rename r)) := by
  induction vs generalizing t u with
  | nil => exact ⟨rfl, Or.inl ⟨t, u, rfl, rfl, htables⟩⟩
  | cons v vs ih =>
      have hv := matches_rename (o := o) htables hr (hvs v List.mem_cons_self)
      have hown : ((v.rename r).check o u).errors =
          ((v.check o t).errors.map (v, ·)).map fun a => a.1.renameError r a.2 := by
        rw [List.map_map, ← List.forall₂_eq_eq_eq, List.forall₂_map_right_iff]
        exact hv.errors.flip.imp fun _ _ h => h.symm
      rw [List.map_cons, run_cons, run_cons, attributed, List.map_append]
      cases hv with
      | @violates w w' hw hw' _ hviolation =>
          subst hviolation
          rw [errors_bind_of_error hw', result_bind_of_error hw, result_bind_of_error hw', hw, hown]
          exact ⟨(List.append_nil _).symm, Or.inr ⟨w, rfl, rfl⟩⟩
      | @yields t' u' ht hu _ htables' =>
          obtain ⟨hrest, hends⟩ := ih htables' fun w hw => hvs w (List.mem_cons_of_mem v hw)
          rw [errors_bind_of_ok hu, result_bind_of_ok ht, result_bind_of_ok hu, ht, hown, hrest]
          exact ⟨rfl, hends⟩

end Visit

/-- An initializer is visited after its declaration. -/
lemma Stmt.declare_mem_visitsAll {ss : List Stmt} {d : Decl} {a : Assignment}
    (h : .initializer d a ∈ Stmt.visitsAll ss) : .declare d ∈ Stmt.visitsAll ss := by
  induction ss using Stmt.listInduction with
  | nil => simp [visitsAll] at h
  | decl d' rest ih =>
      rw [visitsAll, visits, List.mem_append] at h ⊢
      rcases h with hown | hrest
      · left
        simp only [Decl.visits, List.mem_cons, Option.mem_toList, Option.map_eq_some_iff] at hown
        obtain hdecl | ⟨a', -, hinit⟩ := hown
        · cases hdecl
        · obtain ⟨rfl, rfl⟩ := Visit.initializer.inj hinit
          simp [Decl.visits]
      · exact Or.inr (ih hrest)
  | assign a' rest ih =>
      rw [visitsAll, visits, List.mem_append, List.mem_singleton] at h ⊢
      rcases h with hown | hrest
      · cases hown
      · exact Or.inr (ih hrest)
  | ifThen e body span rest ihBody ih =>
      rw [visitsAll, visits, List.mem_append, List.mem_cons] at h ⊢
      rcases h with (hown | hbody) | hrest
      · cases hown
      · exact Or.inl (Or.inr (ihBody hbody))
      · exact Or.inr (ih hrest)
  | print e span rest ih =>
      rw [visitsAll, visits, List.mem_append, List.mem_singleton] at h ⊢
      rcases h with hown | hrest
      · cases hown
      · exact Or.inr (ih hrest)

/-- Every visit of a program has names that the program mentions. -/
lemma Program.within_mentions (p : Program) :
    ∀ v ∈ p.visits, v.Within (Stmt.mentions p.stmts) := by
  have hmentions : ∀ v ∈ p.visits, v.mentions ⊆ Stmt.mentions p.stmts := by
    intro v hv x hx
    exact List.mem_flatMap.2 ⟨v, hv, hx⟩
  intro v hv
  refine ⟨hmentions v hv, ?_⟩
  rintro d a rfl
  exact hmentions _ (Stmt.declare_mem_visitsAll hv) (Visit.target_mem_mentions rfl)

end

/-- **Checking commutes with renaming.**

Let `r` keep the names apart that occur in a program, in whatever role.  Checked on any log with any
options, the program with its names replaced by `r` has the outcome of the program itself, renamed.

* As many errors are reported of both.  Each error of the second is the error of the first at that
  place with its names replaced and everything else as it was, except that an error about an
  assignment quotes the text of the renamed expression.
* Both yield a table, and the entries of the second are those of the first with new names, in the
  same order and with the same bindings; or both end at a violation, and the second is the first one
  with its names replaced. -/
theorem Log.check_renamed (p : Program) (r : String → String)
    (hr : Set.InjOn r {x | x ∈ Stmt.mentions p.stmts}) (o : Options) (l : Log) :
    (l.check o p).1.entries =
        l.entries ++ (Visit.attributed o p.visits .empty).map (fun a => a.2.diagnostic) ∧
      (l.check o (p.rename r)).1.entries = l.entries ++
        (Visit.attributed o p.visits .empty).map (fun a => (a.1.renameError r a.2).diagnostic) ∧
      ((∃ t u, (l.check o p).2 = .ok t ∧ (l.check o (p.rename r)).2 = .ok u ∧
          u.entries = t.entries.map fun e => (r e.1, e.2)) ∨
        ∃ v, (l.check o p).2 = .error v ∧ (l.check o (p.rename r)).2 = .error (v.rename r)) := by
  have hvisits : (p.rename r).visits = p.visits.map (Visit.rename r) :=
    Stmt.visitsAll_rewriteAll (.renaming r) p.stmts
  obtain ⟨herrors, hends⟩ :=
    Visit.renamed_run (o := o) SymbolTable.renamed_empty hr p.within_mentions
  refine ⟨?_, ?_, ?_⟩
  · rw [Log.entries_check, ← Visit.map_snd_attributed, List.map_map]
    rfl
  · rw [Log.entries_check, hvisits, herrors, List.map_map]
    rfl
  · rw [Log.result_check, Log.result_check, hvisits]
    rcases hends with ⟨t, u, ht, hu, htables⟩ | hviolations
    · exact Or.inl ⟨t, u, ht, hu, htables.entries⟩
    · exact Or.inr hviolations

/-- A program that declares `x`, assigns a sum with the unknown name `w` to `y`, and assigns a
comparison of the two to `x`. -/
def comparesBack : Program where
  stmts := [
    .decl ⟨⟨"x", .ofLine 1⟩, ⟨.int, .ofLine 1⟩, none, .ofLine 1⟩,
    .ifThen (.term (.bool ⟨true, .ofLine 2⟩)) [
      .assign ⟨⟨"y", .ofLine 3⟩,
        .binary (.term (.name ⟨"x", .ofLine 3⟩)) [⟨.add, .ofLine 3⟩]
          (.term (.name ⟨"w", .ofLine 3⟩)) (.ofLine 3), .ofLine 3⟩] (.ofLine 2),
    .assign ⟨⟨"x", .ofLine 4⟩,
      .paren (.binary (.term (.name ⟨"y", .ofLine 4⟩)) [⟨.equals, .ofLine 4⟩]
        (.term (.name ⟨"x", .ofLine 4⟩)) (.ofLine 4)) (.ofLine 4), .ofLine 4⟩]
  span := .ofLine 1

/-- `comparesBack` with a declaration of `w` at the end that is initialized by an assignment to
`y`. -/
def comparesThenBreaks : Program where
  stmts := comparesBack.stmts ++ [
    .decl ⟨⟨"w", .ofLine 5⟩, ⟨.int, .ofLine 5⟩, some ⟨⟨"y", .ofLine 5⟩,
      .term (.int ⟨1, .ofLine 5⟩), .ofLine 5⟩, .ofLine 5⟩]
  span := .ofLine 1

/-- Exchanges `x` and `y`, and makes `z` of all other names. -/
def exchange (x : String) : String := if x = "x" then "y" else if x = "y" then "x" else "z"

theorem Log.check_renamed_exchange :
    Set.InjOn exchange {x | x ∈ Stmt.mentions comparesThenBreaks.stmts} ∧
      (Log.empty.check {} (comparesBack.rename exchange)).1.entries =
        [(TypingError.unknownName ⟨"z", .ofLine 3⟩).diagnostic,
          (TypingError.assignment (.ofLine 4) ⟨"y", .ofLine 4⟩ .int "(x==y)" .bool).diagnostic] ∧
      (∃ u, (Log.empty.check {} (comparesBack.rename exchange)).2 = .ok u ∧
        u.names = ["y", "x"]) ∧
      (Log.empty.check {} (comparesThenBreaks.rename exchange)).2 =
        .error (.initializerTarget ⟨"z", .ofLine 5⟩ ⟨"x", .ofLine 5⟩) := by
  have hall : ∀ x ∈ Stmt.mentions comparesThenBreaks.stmts,
      ∀ y ∈ Stmt.mentions comparesThenBreaks.stmts, exchange x = exchange y → x = y := by
    decide
  have hr : Set.InjOn exchange {x | x ∈ Stmt.mentions comparesThenBreaks.stmts} :=
    fun x hx y hy => hall x hx y hy
  have hsub : Stmt.mentions comparesBack.stmts ⊆ Stmt.mentions comparesThenBreaks.stmts := by
    decide
  have hr' : Set.InjOn exchange {x | x ∈ Stmt.mentions comparesBack.stmts} :=
    hr.mono fun x hx => hsub hx
  obtain ⟨-, hentries, htables | ⟨v, hv, -⟩⟩ :=
    Log.check_renamed comparesBack exchange hr' {} .empty
  · obtain ⟨-, -, hviolations⟩ := Log.check_renamed comparesThenBreaks exchange hr {} .empty
    refine ⟨hr, hentries.trans rfl, ?_, ?_⟩
    · obtain ⟨t, u, ht, hu, hrenamed⟩ := htables
      obtain rfl := Except.ok.inj ht
      refine ⟨u, hu, ?_⟩
      rw [SymbolTable.names, hrenamed]
      rfl
    · rcases hviolations with ⟨t, u, ht, -⟩ | ⟨v, hv, hrenamed⟩
      · cases ht
      · cases hv
        exact hrenamed
  · cases hv

end ScriptTyping
