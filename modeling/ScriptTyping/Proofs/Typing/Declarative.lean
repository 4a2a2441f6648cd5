import ScriptTyping.Proofs.Typing.Establishment
import ScriptTyping.Proofs.Typing.Provenance

/-!
# One typing for a whole program

The checker follows the flow of a program: what it says about an expression depends on the table at
that point, and the table grows.  The language can also be described without flow.  Give every
variable one type, for the whole program; then ask of each expression whether it has a type, of each
assignment whether the two sides agree, and of each variable that a declaration establishes whether
it has the declared type.  A declaration of a variable that is established already asks for nothing.

`HasType` and `Program.TypedBy` are that description.  They mention no table and no sentinel type:
under them an expression with a fault simply has no type.  Which operators compare and which
calculate is a part of it, and `Operator.mem_comparisons_iff` says that the checker sees them alike.

The second half of the file shows that a *silent* run, one that reports nothing, is typed by what
its table says at the end.  The final table can be read at every earlier point, because entries are
never changed (`Visit.isPrefix_run`), and it has only known types, because the unknown type is never
without a report of its origin (`Visit.allKnown_run`).
-/

namespace ScriptTyping

/-! ## The rules -/

namespace Operator

/-- The operators that compare their operands. -/
def comparisons : List Operator :=
  [.equals, .notEquals, .lessThan, .greaterThan, .lessEquals, .greaterEquals]

/-- The operators that calculate with their operands. -/
def calculations : List Operator := [.add, .subtract, .multiply, .divide]

lemma mem_comparisons_iff {op : Operator} : op ∈ comparisons ↔ op.isComparison = true := by
  cases op <;> decide

lemma mem_calculations_iff {op : Operator} : op ∈ calculations ↔ op.isComparison = false := by
  cases op <;> decide

end Operator

/-- `HasType G e b` says that `e` has type `b` if each variable `x` has type `G x`. -/
inductive HasType (G : String → BaseTy) : Expr → BaseTy → Prop
  | name (n : Name) : HasType G (.term (.name n)) (G n.text)
  | literal {tm : Term} {b : BaseTy} : tm.literalTy? = some b → HasType G (.term tm) b
  | paren {inner : Expr} {b : BaseTy} (span : Span) :
      HasType G inner b → HasType G (.paren inner span) b
  | comparison {lhs rhs : Expr} {op : Spanned Operator} {b : BaseTy} (span : Span) :
      op.value ∈ Operator.comparisons → HasType G lhs b → HasType G rhs b →
        HasType G (.binary lhs [op] rhs span) .bool
  | arithmetic {lhs rhs : Expr} {op : Spanned Operator} {b : BaseTy} (span : Span) :
      op.value ∈ Operator.calculations → HasType G lhs b → HasType G rhs b →
        HasType G (.binary lhs [op] rhs span) b

/-- What a typing has to say about a visit: its expression has a type, an assigned expression that
of the target, and a condition the type bool if the options insist on it. -/
def Visit.TypedBy (o : Options) (G : String → BaseTy) : Visit → Prop
  | declare _ => True
  | initializer _ a | assign a => HasType G a.expr (G a.name.text)
  | condition e => ∃ b, HasType G e b ∧ (o.strictConditions = true → b = .bool)
  | print e => ∃ b, HasType G e b

/-- A visit that establishes its name by a declaration agrees with the typing. -/
def Visit.FirstDeclared (G : String → BaseTy) (known : List String) (before : List Visit)
    (v : Visit) : Prop :=
  ∀ d, v = .declare d → d.name.text ∉ known ++ Visit.targets before → G d.name.text = d.ty.value

/-- One typing of the variables explains the whole program. -/
structure Program.TypedBy (o : Options) (G : String → BaseTy) (p : Program) : Prop where
  /-- Names are used only after a declaration or an assignment has established them. -/
  established : p.Established
  /-- Every expression has a type, the right one where it matters. -/
  typed : ∀ v ∈ p.visits, v.TypedBy o G
  /-- A variable that a declaration establishes has the declared type. -/
  declared : Visit.Throughout (Visit.FirstDeclared G []) p.visits

/-! ## Tables and typings -/

namespace SymbolTable

variable {t u : SymbolTable} {G : String → BaseTy}

/-- The table records every variable that it binds with the type that `G` gives it. -/
def TypedBy (G : String → BaseTy) (t : SymbolTable) : Prop :=
  ∀ x ty, t.lookup x = some ty → ty = .base (G x)

/-- The table records no variable with the unknown type. -/
def AllKnown (t : SymbolTable) : Prop := ∀ x ty, t.lookup x = some ty → ∃ b, ty = .base b

/-- The typing that a table records. What it gives to other variables does not matter. -/
def typing (t : SymbolTable) (x : String) : BaseTy := (t.get? x).getD .int

lemma AllKnown.typedBy_typing (h : t.AllKnown) : t.TypedBy t.typing := by
  intro x ty hx
  obtain ⟨b, rfl⟩ := h x ty hx
  simp [typing, get?, hx, Ty.base?]

lemma TypedBy.of_isPrefix (hu : u.TypedBy G) (h : t.entries <+: u.entries) : t.TypedBy G :=
  fun x ty hx => hu x ty (lookup_of_isPrefix h hx)

lemma allKnown_iff : t.AllKnown ↔ ¬ t.HasUnknown := by
  constructor
  · rintro h ⟨x, hx⟩
    obtain ⟨b, hb⟩ := h x _ hx
    cases hb
  · intro h x ty hx
    cases ty with
    | base b => exact ⟨b, rfl⟩
    | unknown => exact absurd ⟨x, hx⟩ h

lemma allKnown_empty : empty.AllKnown := allKnown_iff.2 not_hasUnknown_empty

end SymbolTable

/-! ## Silent runs are typed -/

section Silent

variable {o : Options} {t u : SymbolTable} {G : String → BaseTy}

/-- Operands that are not reported and have known types have one type. -/
lemma eq_of_operandReports_eq_nil {span : Span} {a b : BaseTy}
    (h : operandReports span (.base a) (.base b) = []) : a = b := by
  by_contra hab
  simp [operandReports, hab] at h

/-- An expression about which nothing is reported, under a table of known types, has a known type
by the rules. -/
lemma Expr.hasType_of_silent (ht : t.TypedBy G) {e : Expr} {ty : Ty}
    (h : (e.typeOf t).Yields [] ty) : ∃ b, ty = .base b ∧ HasType G e b := by
  induction e generalizing ty with
  | term tm =>
      rcases tm.eq_name_or_literal with ⟨n, rfl⟩ | ⟨b, hb⟩
      · rcases yields_name_iff.1 h with ⟨hn, -⟩ | ⟨-, hes, -⟩
        · exact ⟨G n.text, ht _ _ hn, .name n⟩
        · cases hes
      · obtain ⟨-, rfl⟩ := (yields_literal_iff hb).1 h
        exact ⟨b, rfl, .literal hb⟩
  | paren inner span ih =>
      obtain ⟨b, rfl, hb⟩ := ih (yields_paren_iff.1 h)
      exact ⟨b, rfl, .paren span hb⟩
  | binary lhs ops rhs span ihl ihr =>
      obtain ⟨op, es₁, l, es₂, r, rfl, hl, hr, hes, rfl⟩ := yields_binary_iff.1 h
      obtain ⟨hes', hop⟩ := List.append_eq_nil_iff.1 hes.symm
      obtain ⟨rfl, rfl⟩ := List.append_eq_nil_iff.1 hes'
      obtain ⟨a, rfl, ha⟩ := ihl hl
      obtain ⟨b, rfl, hb⟩ := ihr hr
      obtain rfl : a = b := eq_of_operandReports_eq_nil hop
      cases hcmp : op.value.isComparison with
      | true =>
          have hop := Operator.mem_comparisons_iff.2 hcmp
          exact ⟨.bool, by simp [Operator.result, hcmp], .comparison span hop ha hb⟩
      | false =>
          have hop := Operator.mem_calculations_iff.2 hcmp
          exact ⟨a, by simp [Operator.result, hcmp], .arithmetic span hop ha hb⟩

namespace Visit

variable {v : Visit} {vs : List Visit}

/-- A silent run adds no variable of unknown type: it reports no origin of one. -/
lemma allKnown_run (ht : t.AllKnown) (h : (run o vs t).Yields [] u) : u.AllKnown := by
  rw [SymbolTable.allKnown_iff] at ht ⊢
  intro hunknown
  rcases (Moment.last h.2).originReported (Or.inl hunknown) with htable | horigin
  · exact ht htable
  · obtain ⟨e, he, -⟩ := horigin.exists_error
    rw [h.1] at he
    cases he

/-- An assignment that is not reported has the type that the table records afterwards. -/
lemma eq_of_assignment_reports {a : Assignment} {b : BaseTy}
    (hu : (t.bind a.name.text (a.binding (.base b))).TypedBy G)
    (h : a.reports (t.lookup a.name.text) (.base b) = []) : b = G a.name.text := by
  by_cases hmem : a.name.text ∈ t.names
  · obtain ⟨known, hknown⟩ := SymbolTable.exists_lookup_of_mem hmem
    rw [SymbolTable.bind_of_mem hmem] at hu
    obtain rfl := hu _ _ hknown
    rw [hknown] at h
    by_contra hne
    simp [Assignment.reports, Ne.symm hne] at h
  · have hself := hu _ _ (SymbolTable.lookup_bind_self hmem)
    exact Ty.base.inj hself

/-- A visit that reports nothing is typed by every typing that its table agrees with. -/
lemma typedBy_check (hu : u.TypedBy G) (h : (v.check o t).Yields [] u) : v.TypedBy o G := by
  rcases v.eq_declare_or_expr with ⟨d, rfl⟩ | ⟨e, he⟩
  · trivial
  · obtain ⟨-, es₁, ty, hty, hes, rfl⟩ := (check_yields_iff he).1 h
    obtain ⟨rfl, hreports⟩ := List.append_eq_nil_iff.1 hes.symm
    obtain ⟨b, rfl, hb⟩ := Expr.hasType_of_silent (hu.of_isPrefix isPrefix_effect) hty
    cases v with
    | declare d => trivial
    | initializer _ a | assign a =>
        obtain rfl : a.expr = e := Option.some.inj he
        rwa [eq_of_assignment_reports hu hreports] at hb
    | condition e' =>
        obtain rfl : e' = e := Option.some.inj he
        refine ⟨b, hb, fun hstrict => ?_⟩
        by_contra hbool
        simp [reports, Options.conditionReports, hstrict, Ty.agrees, hbool] at hreports
    | print e' =>
        obtain rfl : e' = e := Option.some.inj he
        exact ⟨b, hb⟩

/-- **A silent run is typed** by every typing that its last table agrees with. -/
lemma typedBy_run (hu : u.TypedBy G) (h : (run o vs t).Yields [] u) :
    ∀ v ∈ vs, v.TypedBy o G := by
  induction vs generalizing t with
  | nil => simp
  | cons v vs ih =>
      obtain ⟨es₁, t', es₂, hv, hvs, hes⟩ := run_cons_yields_iff.1 h
      obtain ⟨rfl, rfl⟩ := List.append_eq_nil_iff.1 hes.symm
      have ht' : t'.TypedBy G := hu.of_isPrefix (isPrefix_run hvs)
      exact List.forall_mem_cons.2 ⟨typedBy_check ht' hv, ih hvs⟩

/-- A variable that a declaration establishes is recorded with the declared type to the end of a
run. -/
lemma firstDeclared_run {es : List TypingError} (hu : u.TypedBy G)
    (h : (run o vs .empty).Yields es u) : Throughout (FirstDeclared G []) vs := by
  rintro before v after rfl d rfl hd
  rw [run_append] at h
  obtain ⟨es₁, t₁, es₂, hbefore, hrest, -⟩ := Check.yields_bind_iff.1 h
  obtain ⟨es₃, t₂, es₄, hdecl, hafter, -⟩ := run_cons_yields_iff.1 hrest
  obtain ⟨-, rfl⟩ := declare_yields_iff.1 hdecl
  have hfree : d.name.text ∉ t₁.names := by
    rw [mem_names_run hbefore]
    simpa using hd
  have hlook := SymbolTable.lookup_of_isPrefix (isPrefix_run hafter)
    (SymbolTable.lookup_bind_self (b := d.binding) hfree)
  exact (Ty.base.inj (hu _ _ hlook)).symm

end Visit

/-- A program whose run is silent is typed by what the final table records. -/
lemma Program.typedBy_of_silent {p : Program} (h : (Visit.run o p.visits .empty).Yields [] u) :
    p.TypedBy o u.typing ∧ u.TypedBy u.typing := by
  have hu : u.TypedBy u.typing :=
    (Visit.allKnown_run SymbolTable.allKnown_empty h).typedBy_typing
  refine ⟨⟨?_, Visit.typedBy_run hu h, Visit.firstDeclared_run hu h⟩, hu⟩
  rw [Program.established_iff]
  exact (Visit.filterMap_run (by simp) h).symm

end Silent

end ScriptTyping
