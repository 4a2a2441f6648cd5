import ScriptTyping.Proofs.Typing.Declarative

/-!
# Recovery from unknown names

A name that nothing establishes is reported, and the run goes on with the unknown type in its place.
The unknown type travels: through arithmetic into the type of an expression, through an assignment
into the table, and from there into other expressions.  A comparison turns it back into a known
type.  None of this may bring up a fault that is not there.

To say so, compare a run with a typing.  A type *approximates* the type that the typing gives if it
is that type or is unknown, and a table does if all its entries do.  `Visit.recovers_run` is the
invariant: over visits that a typing explains, a run from a table that approximates the typing leads
to such a table, and reports unknown names only.

The typing comes from elsewhere.  If the missing variables are declared in front of a program and
the run is then silent, the table of that run is a typing of the program
(`Program.typedBy_of_silent`), and the program by itself is a run over visits that it explains.
-/

namespace ScriptTyping

/-! ## Approximation -/

/-- The type is `b` or unknown. -/
def Ty.Approximates (b : BaseTy) (ty : Ty) : Prop := ty = .unknown ∨ ty = .base b

/-- Every entry of the table is of the type that `G` gives it, or of unknown type. -/
def SymbolTable.Approximates (G : String → BaseTy) (t : SymbolTable) : Prop :=
  ∀ x ty, t.lookup x = some ty → ty.Approximates (G x)

/-- The error says that a name is unknown. -/
def TypingError.IsUnknownName (e : TypingError) : Prop := ∃ n, e = .unknownName n

section

variable {G : String → BaseTy} {t u : SymbolTable} {o : Options} {es : List TypingError}

lemma SymbolTable.approximates_empty : SymbolTable.empty.Approximates G := by
  intro x ty hx
  cases hx

lemma SymbolTable.Approximates.bind {x : String} {b : Binding} (ht : t.Approximates G)
    (hb : x ∉ t.names → b.ty.Approximates (G x)) : (t.bind x b).Approximates G := by
  intro y ty hy
  rcases SymbolTable.lookup_bind_eq_some_iff.1 hy with hy | ⟨rfl, hfree, rfl⟩
  · exact ht y ty hy
  · exact hb hfree

/-- Operands that approximate one type are not reported. -/
lemma operandReports_of_approximates {span : Span} {l r : Ty} {b : BaseTy}
    (hl : l.Approximates b) (hr : r.Approximates b) : operandReports span l r = [] := by
  rcases hl with rfl | rfl <;> rcases hr with rfl | rfl <;> simp [operandReports]

lemma Operator.result_comparison {op : Operator} {l r : Ty} {b : BaseTy}
    (hop : op ∈ comparisons) (hl : l.Approximates b) (hr : r.Approximates b) :
    op.result l r = .base .bool := by
  rw [mem_comparisons_iff] at hop
  rcases hl with rfl | rfl <;> rcases hr with rfl | rfl <;> simp [result, hop]

lemma Operator.result_arithmetic {op : Operator} {l r : Ty} {b : BaseTy}
    (hop : op ∈ calculations) (hl : l.Approximates b) (hr : r.Approximates b) :
    (op.result l r).Approximates b := by
  rw [mem_calculations_iff] at hop
  rcases hl with rfl | rfl <;> rcases hr with rfl | rfl <;> simp [result, hop, Ty.Approximates]

/-- Whatever the expression comes to under the table, the type found is `b` or unknown, and unknown
names are all that is reported. -/
def Expr.Recovers (t : SymbolTable) (e : Expr) (b : BaseTy) : Prop :=
  ∀ es ty, (e.typeOf t).Yields es ty → ty.Approximates b ∧ ∀ er ∈ es, er.IsUnknownName

/-- If both operands recover to one type, a binary node reports nothing of its own. -/
lemma Expr.Recovers.operands {lhs rhs : Expr} {op : Spanned Operator} {span : Span} {b : BaseTy}
    (hl : lhs.Recovers t b) (hr : rhs.Recovers t b) {ty : Ty}
    (h : (typeOf t (.binary lhs [op] rhs span)).Yields es ty) :
    ∃ l r : Ty, l.Approximates b ∧ r.Approximates b ∧ ty = op.value.result l r ∧
      ∀ er ∈ es, er.IsUnknownName := by
  obtain ⟨op', es₁, l, es₂, r, hops, hlhs, hrhs, rfl, rfl⟩ := yields_binary_iff.1 h
  obtain rfl := List.singleton_inj.1 hops
  obtain ⟨hlb, hes₁⟩ := hl es₁ l hlhs
  obtain ⟨hrb, hes₂⟩ := hr es₂ r hrhs
  refine ⟨l, r, hlb, hrb, rfl, ?_⟩
  rw [operandReports_of_approximates hlb hrb, List.append_nil]
  exact List.forall_mem_append.2 ⟨hes₁, hes₂⟩

/-- An expression that the typing gives a type recovers to that type. -/
lemma Expr.recovers_of_hasType (ht : t.Approximates G) {e : Expr} {b : BaseTy}
    (he : HasType G e b) : e.Recovers t b := by
  induction he with
  | name n =>
      intro es ty h
      rcases yields_name_iff.1 h with ⟨hn, rfl⟩ | ⟨-, rfl, rfl⟩
      · exact ⟨ht _ _ hn, by simp⟩
      · exact ⟨Or.inl rfl, by simp [TypingError.IsUnknownName]⟩
  | literal hb =>
      intro es ty h
      obtain ⟨rfl, rfl⟩ := (yields_literal_iff hb).1 h
      exact ⟨Or.inr rfl, by simp⟩
  | paren span _ ih => exact fun es ty h => ih es ty (yields_paren_iff.1 h)
  | comparison span hop _ _ ihl ihr =>
      intro es ty h
      obtain ⟨l, r, hl, hr, rfl, hes⟩ := ihl.operands ihr h
      exact ⟨Or.inr (Operator.result_comparison hop hl hr), hes⟩
  | arithmetic span hop _ _ ihl ihr =>
      intro es ty h
      obtain ⟨l, r, hl, hr, rfl, hes⟩ := ihl.operands ihr h
      exact ⟨Operator.result_arithmetic hop hl hr, hes⟩

/-! ## Runs -/

namespace Visit

variable {v : Visit} {vs : List Visit}

/-- An assignment between types that approximate one type is not reported. -/
lemma assignment_reports_of_approximates (ht : t.Approximates G) {a : Assignment} {ty : Ty}
    (hty : ty.Approximates (G a.name.text)) : a.reports (t.lookup a.name.text) ty = [] := by
  cases hknown : t.lookup a.name.text with
  | none => rfl
  | some known =>
      rcases ht _ _ hknown with rfl | rfl <;> rcases hty with rfl | rfl <;>
        simp [Assignment.reports]

lemma conditionReports_of_approximates {e : Expr} {b : BaseTy} {ty : Ty}
    (hb : o.strictConditions = true → b = .bool) (hty : ty.Approximates b) :
    o.conditionReports e ty = [] := by
  rw [Options.conditionReports, if_neg]
  intro h
  obtain ⟨hstrict, hagrees⟩ := (Bool.and_eq_true _ _).mp h
  rcases hty with rfl | rfl
  · simp [Ty.agrees] at hagrees
  · simp [Ty.agrees, hb hstrict] at hagrees

/-- A visit that a typing explains has an expression with a type, and whatever approximates that
type makes the visit report nothing and leave a table that approximates the typing. -/
lemma recovers_effect (ht : t.Approximates G) (hv : v.TypedBy o G) {e : Expr}
    (he : v.expr? = some e) :
    ∃ b, HasType G e b ∧ ∀ ty, ty.Approximates b →
      v.reports o t ty = [] ∧ (v.effect t ty).Approximates G := by
  cases v with
  | declare d => cases he
  | initializer _ a | assign a =>
      obtain rfl : a.expr = e := Option.some.inj he
      exact ⟨G a.name.text, hv, fun ty hty =>
        ⟨assignment_reports_of_approximates ht hty, ht.bind fun _ => hty⟩⟩
  | condition e' =>
      obtain rfl : e' = e := Option.some.inj he
      obtain ⟨b, hb, hstrict⟩ := hv
      exact ⟨b, hb, fun ty hty => ⟨conditionReports_of_approximates hstrict hty, ht⟩⟩
  | print e' =>
      obtain rfl : e' = e := Option.some.inj he
      obtain ⟨b, hb⟩ := hv
      exact ⟨b, hb, fun ty _ => ⟨rfl, ht⟩⟩

lemma recovers_check (ht : t.Approximates G) (hv : v.TypedBy o G)
    (hd : v.FirstDeclared G t.names []) (h : (v.check o t).Yields es u) :
    (∀ er ∈ es, er.IsUnknownName) ∧ u.Approximates G := by
  rcases v.eq_declare_or_expr with ⟨d, rfl⟩ | ⟨e, he⟩
  · obtain ⟨rfl, rfl⟩ := declare_yields_iff.1 h
    refine ⟨by simp, ht.bind fun hfree => ?_⟩
    have hty : G d.name.text = d.ty.value := hd d rfl (by simpa using hfree)
    rw [hty]
    exact Or.inr rfl
  · obtain ⟨-, es₁, ty, hty, rfl, rfl⟩ := (check_yields_iff he).1 h
    obtain ⟨b, hb, heffect⟩ := recovers_effect ht hv he
    obtain ⟨hap, hes₁⟩ := Expr.recovers_of_hasType ht hb es₁ ty hty
    obtain ⟨hreports, hu⟩ := heffect ty hap
    rw [hreports, List.append_nil]
    exact ⟨hes₁, hu⟩

/-- **Recovery.** Over visits that a typing explains, a run from a table that approximates the
typing reports unknown names only and ends with such a table. -/
lemma recovers_run (ht : t.Approximates G) (hvs : ∀ v ∈ vs, v.TypedBy o G)
    (hd : Throughout (FirstDeclared G t.names) vs) (h : (run o vs t).Yields es u) :
    (∀ er ∈ es, er.IsUnknownName) ∧ u.Approximates G := by
  induction vs generalizing t es with
  | nil =>
      obtain ⟨rfl, rfl⟩ := run_nil_yields_iff.1 h
      exact ⟨by simp, ht⟩
  | cons v vs ih =>
      obtain ⟨es₁, t', es₂, hv, hrest, rfl⟩ := run_cons_yields_iff.1 h
      obtain ⟨hdv, hdvs⟩ := throughout_cons_iff.1 hd
      obtain ⟨hes₁, ht'⟩ := recovers_check ht (hvs v List.mem_cons_self) hdv hv
      -- The target of this visit has moved from the visits before into the table.
      have hd' : Throughout (FirstDeclared G t'.names) vs := by
        intro before w after hsplit d hw hfree
        refine hdvs before w after hsplit d hw fun hmem => hfree ?_
        obtain ⟨ty, rfl⟩ := exists_effect hv
        rw [targets_cons, ← List.append_assoc, List.mem_append, List.mem_append,
          Option.mem_toList] at hmem
        rw [List.mem_append, mem_names_effect]
        exact hmem
      obtain ⟨hes₂, hu⟩ := ih ht' (fun w hw => hvs w (List.mem_cons_of_mem _ hw)) hd' hrest
      exact ⟨List.forall_mem_append.2 ⟨hes₁, hes₂⟩, hu⟩

end Visit

end

/-! ## Declaring the missing names -/

/-- The program with declarations put in front of it. -/
def Program.withDecls (ds : List Decl) (p : Program) : Program :=
  { p with stmts := ds.map .decl ++ p.stmts }

/-- The declarations of a program, at every depth. -/
def Program.decls (p : Program) : List Decl :=
  p.visits.filterMap fun
    | .declare d => some d
    | _ => none

/-- No name is declared by the program with another type than by its first declaration in `ds`. -/
def Program.AgreesWith (ds : List Decl) (p : Program) : Prop :=
  ∀ d ∈ p.decls, ∀ d₀ ∈ ds.find? (·.name.text = d.name.text), d₀.ty.value = d.ty.value

instance (ds : List Decl) (p : Program) : Decidable (p.AgreesWith ds) :=
  inferInstanceAs (Decidable (∀ d ∈ p.decls, ∀ d₀ ∈ ds.find? _, d₀.ty.value = d.ty.value))

lemma Program.mem_decls {p : Program} {d : Decl} : d ∈ p.decls ↔ .declare d ∈ p.visits := by
  rw [Program.decls, List.mem_filterMap]
  constructor
  · rintro ⟨v, hv, hd⟩
    cases v <;> simp_all
  · exact fun h => ⟨_, h, rfl⟩

lemma Program.visits_withDecls {ds : List Decl} (hinit : ∀ d ∈ ds, d.init = none) (p : Program) :
    (p.withDecls ds).visits = ds.map .declare ++ p.visits := by
  have hds : Stmt.visitsAll (ds.map .decl) = ds.map .declare := by
    induction ds with
    | nil => rfl
    | cons d ds ih =>
        have hd : d.visits = [.declare d] := by
          simp [Decl.visits, hinit d List.mem_cons_self]
        rw [List.map_cons, Stmt.visitsAll, Stmt.visits, hd,
          ih fun d' hd' => hinit d' (List.mem_cons_of_mem _ hd')]
        rfl
  rw [Program.visits, Program.withDecls, Stmt.visitsAll_append, hds]
  rfl

lemma Visit.mem_targets_declare {ds : List Decl} {x : String} :
    x ∈ Visit.targets (ds.map .declare) ↔ ∃ d ∈ ds, d.name.text = x := by
  simp [Visit.targets, Visit.target?]

/-- If declarations in front of a program agree with its own about the names of both, a typing that
goes by the first declarations of all goes by the first declarations of the program. -/
lemma Program.AgreesWith.firstDeclared {G : String → BaseTy} {ds : List Decl} {p : Program}
    (hagree : p.AgreesWith ds)
    (h : Visit.Throughout (Visit.FirstDeclared G []) (ds.map .declare ++ p.visits)) :
    Visit.Throughout (Visit.FirstDeclared G []) p.visits := by
  rintro before _ after hsplit d rfl hfree
  rw [hsplit] at h
  cases hfind : ds.find? (·.name.text = d.name.text) with
  | none =>
      refine h (ds.map .declare ++ before) _ after (by rw [List.append_assoc]) d rfl ?_
      rw [List.nil_append, Visit.targets_append, List.mem_append, not_or]
      refine ⟨fun hmem => ?_, hfree⟩
      obtain ⟨d', hd', hname⟩ := Visit.mem_targets_declare.1 hmem
      exact List.find?_eq_none.1 hfind d' hd' (by simpa using hname)
  | some d₀ =>
      obtain ⟨hname, front, back, rfl, hfront⟩ := List.find?_eq_some_iff_append.1 hfind
      have hname₀ : d₀.name.text = d.name.text := by simpa using hname
      have hd₀ : G d₀.name.text = d₀.ty.value := by
        refine h (front.map .declare) (.declare d₀)
          (back.map .declare ++ (before ++ .declare d :: after)) (by simp) d₀ rfl ?_
        rw [List.nil_append, Visit.mem_targets_declare]
        rintro ⟨d', hd', hname'⟩
        have := hfront d' hd'
        simp [hname', hname₀] at this
      rw [← hname₀, hd₀]
      exact hagree d (Program.mem_decls.2 (by simp [hsplit])) d₀ hfind

/-- **Recovery is sound.**

Let a program be well-formed, and let it be checked without any report once some declarations
without initializers are put in front of it, where none of them disagrees with a declaration of the
program.  Then the program by itself is checked with reports of unknown names only, and each
entry of its table is of unknown type or of the type that the longer program has for the name. -/
theorem Log.check_reports_only_unknownNames (p : Program) (hp : p.WellFormed) (o : Options)
    (ds : List Decl) (hinit : ∀ d ∈ ds, d.init = none) (hagree : p.AgreesWith ds)
    (l : Log) (u : SymbolTable) (hok : (l.check o (p.withDecls ds)).2 = .ok u)
    (hsilent : (l.check o (p.withDecls ds)).1.entries = l.entries) (l' : Log) :
    ∃ new t, (l'.check o p).1.entries = l'.entries ++ new ∧ (l'.check o p).2 = .ok t ∧
      (∀ d ∈ new, ∃ n, d = (TypingError.unknownName n).diagnostic) ∧
      ∀ e ∈ t.entries, e.2.ty = .unknown ∨ u.lookup e.1 = some e.2.ty := by
  have hrun := l.check_silent_iff.1 ⟨hok, hsilent⟩
  obtain ⟨htyped, hu⟩ := Program.typedBy_of_silent hrun
  have hvisits := Program.visits_withDecls hinit p
  have hvs : ∀ v ∈ p.visits, v.TypedBy o u.typing := fun v hv =>
    htyped.typed v (by rw [hvisits]; exact List.mem_append_right _ hv)
  have hfirst : Visit.Throughout (Visit.FirstDeclared u.typing []) p.visits :=
    hagree.firstDeclared (hvisits ▸ htyped.declared)
  obtain ⟨es, t, h⟩ := hp.exists_yields o .empty
  obtain ⟨hes, ht⟩ := Visit.recovers_run SymbolTable.approximates_empty hvs hfirst h
  obtain ⟨hentries, hok'⟩ := l'.check_of_yields h
  refine ⟨es.map TypingError.diagnostic, t, hentries, hok', ?_, ?_⟩
  · intro d hd
    obtain ⟨e, he, rfl⟩ := List.mem_map.1 hd
    obtain ⟨n, rfl⟩ := hes e he
    exact ⟨n, rfl⟩
  · intro e he
    have hlook := SymbolTable.lookup_of_mem_entries he
    rcases ht _ _ hlook with hunknown | hbase
    · exact Or.inl hunknown
    · refine Or.inr ?_
      -- A name that the program establishes by itself is established in the longer run.
      have hmem : e.1 ∈ u.names := by
        have htarget := (Visit.mem_names_run h).1 (SymbolTable.mem_names_of_lookup hlook)
        rw [SymbolTable.names_empty, or_iff_right List.not_mem_nil] at htarget
        rw [Visit.mem_names_run hrun, hvisits, Visit.targets_append]
        exact Or.inr (List.mem_append_right _ htarget)
      obtain ⟨ty, hty⟩ := SymbolTable.exists_lookup_of_mem hmem
      rw [hty, hu _ _ hty, hbase]

/-- A program that uses `y` and `s` before it declares them: `y` in a sum that is assigned to `x`
and in a comparison that guards a copy of `x`, and `s` beside a string.  It then declares both. -/
def earlyUses : Program where
  stmts := [
    .assign ⟨⟨"x", .ofLine 1⟩,
      .binary (.term (.name ⟨"y", .ofLine 1⟩)) [⟨.add, .ofLine 1⟩] (.term (.int ⟨1, .ofLine 1⟩))
        (.ofLine 1), .ofLine 1⟩,
    .ifThen (.binary (.term (.name ⟨"y", .ofLine 2⟩)) [⟨.lessThan, .ofLine 2⟩]
        (.term (.int ⟨2, .ofLine 2⟩)) (.ofLine 2))
      [.assign ⟨⟨"z", .ofLine 3⟩, .term (.name ⟨"x", .ofLine 3⟩), .ofLine 3⟩] (.ofLine 2),
    .print (.binary (.term (.name ⟨"s", .ofLine 4⟩)) [⟨.add, .ofLine 4⟩]
      (.term (.string ⟨"a", .ofLine 4⟩)) (.ofLine 4)) (.ofLine 4),
    .decl ⟨⟨"s", .ofLine 5⟩, ⟨.string, .ofLine 5⟩, none, .ofLine 5⟩,
    .decl ⟨⟨"y", .ofLine 6⟩, ⟨.int, .ofLine 6⟩, none, .ofLine 6⟩]
  span := .ofLine 1

/-- The declarations that `earlyUses` makes too late. -/
def earlyDecls : List Decl :=
  [⟨⟨"y", .ofLine 1⟩, ⟨.int, .ofLine 1⟩, none, .ofLine 1⟩,
    ⟨⟨"s", .ofLine 1⟩, ⟨.string, .ofLine 1⟩, none, .ofLine 1⟩]

theorem Log.check_earlyUses_reports :
    earlyUses.WellFormed ∧
      ∃ u, (Log.empty.check ⟨true⟩ (earlyUses.withDecls earlyDecls)).2 = .ok u ∧
        (Log.empty.check ⟨true⟩ (earlyUses.withDecls earlyDecls)).1.entries = [] ∧
        ∃ new t, (Log.empty.check ⟨true⟩ earlyUses).1.entries = new ∧
          (Log.empty.check ⟨true⟩ earlyUses).2 = .ok t ∧
          (∀ d ∈ new, ∃ n, d = (TypingError.unknownName n).diagnostic) ∧
          ∀ e ∈ t.entries, e.2.ty = .unknown ∨ u.lookup e.1 = some e.2.ty := by
  have hp : earlyUses.WellFormed := by decide
  have hsilent : (Log.empty.check ⟨true⟩ (earlyUses.withDecls earlyDecls)).1.entries = [] := by
    decide
  obtain ⟨u, hok⟩ : ∃ u, (Log.empty.check ⟨true⟩ (earlyUses.withDecls earlyDecls)).2 = .ok u :=
    ⟨_, rfl⟩
  exact ⟨hp, u, hok, hsilent, Log.check_reports_only_unknownNames earlyUses hp ⟨true⟩ earlyDecls
    (by decide) (by decide) .empty u hok hsilent .empty⟩

end ScriptTyping
