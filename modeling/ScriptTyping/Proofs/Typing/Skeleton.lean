import ScriptTyping.Proofs.Typing.Comparison

/-!
# What checking depends on

Much of a program is of no consequence to its types: where its parts stand, what the values of its
literals are, which comparison it makes and which arithmetic it does, and what it puts in
parentheses.  `Program.skeleton` is the program with all this taken away.  It is a program again, so
that the two can be compared by checking both.

They are checked alike: the run over a program and the run over its skeleton report errors of the
same content one for one, and end in tables of the same outline or at violations of the same
content.  What is not compared are places, and the text of an expression that an error quotes.

The tables of the two runs are not equal, since their entries have places.  The invariant is that
they have the same outline (`SymbolTable.outline`), on which every look-up depends alone
(`SymbolTable.lookup_eq_outline`).
-/

namespace ScriptTyping

/-! ## Skeletons -/

/-- The name at no particular place. -/
def Name.skeleton (n : Name) : Name := ⟨n.text, .origin⟩

/-- One operator stands for all comparisons and one for all others. -/
def Operator.skeleton (op : Operator) : Operator := if op.isComparison then .equals else .add

/-- The operators of a node: a single one up to its class, and of any other list only its length. -/
def operatorSkeleton (ops : List (Spanned Operator)) : List (Spanned Operator) :=
  match singleOperator? ops with
  | some op => [⟨op.skeleton, .origin⟩]
  | none => ops.map fun _ => ⟨.add, .origin⟩

def Term.skeleton : Term → Term
  | .name n => .name n.skeleton
  | .int _ => .int ⟨0, .origin⟩
  | .string _ => .string ⟨"", .origin⟩
  | .bool _ => .bool ⟨false, .origin⟩

/-- The expression without parentheses, with its literals and operators replaced by one of their
kind. -/
def Expr.skeleton : Expr → Expr
  | .term t => .term t.skeleton
  | .binary lhs ops rhs _ => .binary lhs.skeleton (operatorSkeleton ops) rhs.skeleton .origin
  | .paren inner _ => inner.skeleton

/-- Takes away what checking does not depend on. -/
def Rewriting.skeleton : Rewriting := ⟨Name.skeleton, Expr.skeleton, fun _ => .origin⟩

/-- The program with names, declared types and the arrangement of its parts, and nothing else. -/
def Program.skeleton (p : Program) : Program := p.rewrite .skeleton

/-! ## What is compared -/

/-- The error with its names and types, but without places and quoted text. -/
def TypingError.content : TypingError → TypingError
  | unknownName n => unknownName n.skeleton
  | operands _ lhs rhs => operands .origin lhs rhs
  | assignment _ n expected _ actual => assignment .origin n.skeleton expected "" actual
  | condition _ ty => condition .origin ty

/-- The violation with its names or its number of operators, but without places. -/
def Violation.content : Violation → Violation
  | operatorChain _ count => operatorChain .origin count
  | initializerTarget declared target => initializerTarget declared.skeleton target.skeleton

namespace SymbolTable

/-- The names of a table in order, each with its type and the way it came into the table. -/
def outline (t : SymbolTable) : List (String × Ty × BindingKind) :=
  t.entries.map fun e => (e.1, e.2.ty, e.2.kind)

variable {t u : SymbolTable}

lemma lookup_eq_outline (t : SymbolTable) (x : String) :
    t.lookup x = (t.outline.lookup x).map Prod.fst := by
  rw [lookup, find?, outline]
  induction t.entries with
  | nil => rfl
  | cons e es ih =>
      rw [List.map_cons, List.lookup_cons, List.lookup_cons]
      cases x == e.1 with
      | true => rfl
      | false => exact ih

lemma names_eq_outline (t : SymbolTable) : t.names = t.outline.map Prod.fst := by
  rw [outline, List.map_map]
  rfl

lemma lookup_congr (h : t.outline = u.outline) (x : String) : t.lookup x = u.lookup x := by
  rw [lookup_eq_outline, h, ← lookup_eq_outline]

lemma outline_bind_congr (h : t.outline = u.outline) (x : String) {b b' : Binding}
    (hty : b.ty = b'.ty) (hkind : b.kind = b'.kind) :
    (t.bind x b).outline = (u.bind x b').outline := by
  have hnames : t.names = u.names := by rw [names_eq_outline, h, ← names_eq_outline]
  by_cases hx : x ∈ t.names
  · have hx' : x ∈ u.names := hnames ▸ hx
    rw [bind_of_mem hx, bind_of_mem hx', h]
  · have hx' : x ∉ u.names := hnames ▸ hx
    have hentries : t.entries.map (fun e => (e.1, e.2.ty, e.2.kind)) =
        u.entries.map fun e => (e.1, e.2.ty, e.2.kind) := h
    simp only [outline, entries_bind_of_notMem hx, entries_bind_of_notMem hx', List.map_append,
      List.map_cons, List.map_nil, hentries, hty, hkind]

end SymbolTable

/-- Two computations match up to the content of what they report. -/
def Check.Alike {α β : Type} (A : α → β → Prop) (c : Check α) (d : Check β) : Prop :=
  Check.Matches (fun e e' => e.content = e'.content) (fun v w => v.content = w.content) A c d

/-- Two computations that match a third one match each other. -/
lemma Check.Alike.join {α ι : Type} {view : α → ι} {c d s : Check α}
    (hc : Check.Alike (fun a b => view a = view b) c s)
    (hd : Check.Alike (fun a b => view a = view b) d s) :
    Check.Alike (fun a b => view a = view b) c d := by
  have hcontent : ∀ {es es' : List TypingError},
      List.Forall₂ (fun e e' => e.content = e'.content) es es' ↔
        es.map TypingError.content = es'.map TypingError.content := fun {es es'} => by
    rw [← List.forall₂_eq_eq_eq, List.forall₂_map_left_iff, List.forall₂_map_right_iff]
  have herrors : List.Forall₂ (fun e e' => e.content = e'.content) c.errors d.errors :=
    hcontent.2 ((hcontent.1 hc.errors).trans (hcontent.1 hd.errors).symm)
  cases hc with
  | @yields a b hc hs _ hvalue =>
      cases hd with
      | @yields a' b' hd hs' _ hvalue' =>
          obtain rfl : b = b' := Except.ok.inj (hs.symm.trans hs')
          exact .yields hc hd herrors (hvalue.trans hvalue'.symm)
      | violates _ hs' => cases hs.symm.trans hs'
  | @violates v w hc hs _ hviolation =>
      cases hd with
      | yields _ hs' => cases hs.symm.trans hs'
      | @violates v' w' hd hs' _ hviolation' =>
          obtain rfl : w = w' := Except.error.inj (hs.symm.trans hs')
          exact .violates hc hd herrors (hviolation.trans hviolation'.symm)

/-! ## Expressions and their skeletons -/

section

variable {t u : SymbolTable}

open Check

lemma Term.alike_skeleton (htables : t.outline = u.outline) (tm : Term) :
    Alike Eq (tm.typeOf t) (tm.skeleton.typeOf u) := by
  cases tm with
  | name n =>
      have hlookup : t.lookup n.text = u.lookup n.skeleton.text :=
        SymbolTable.lookup_congr htables n.text
      rw [skeleton, typeOf, typeOf, Name.typeOf, Name.typeOf, hlookup]
      cases u.lookup n.skeleton.text with
      | some ty => exact matches_pure rfl
      | none => exact matches_report rfl rfl
  | int _ | string _ | bool _ => exact matches_pure rfl

lemma Operator.isComparison_skeleton (op : Operator) :
    op.skeleton.isComparison = op.isComparison := by
  cases op <;> rfl

/-- An operator and its skeleton give the same type to the same operands. -/
lemma Operator.alike_skeleton (op : Operator) (span : Span) (l r : Ty) :
    Alike Eq (op.typeOf span l r) (op.skeleton.typeOf .origin l r) := by
  rcases l with a | _ <;> rcases r with b | _
  case base.base =>
    rw [typeOf, typeOf, op.isComparison_skeleton]
    by_cases hab : a = b
    · rw [if_pos hab, if_pos hab]
      exact matches_pure rfl
    · rw [if_neg hab, if_neg hab]
      exact matches_report rfl rfl
  all_goals exact matches_pure (by rw [op.isComparison_skeleton])

/-- Of the operators of a node, what counts is how many there are and the class of a single one. -/
lemma singleOperator?_skeleton (ops : List (Spanned Operator)) :
    singleOperator? (operatorSkeleton ops) = (singleOperator? ops).map Operator.skeleton ∧
      (operatorSkeleton ops).length = ops.length := by
  rcases ops with _ | ⟨op, _ | ⟨op', ops⟩⟩
  · exact ⟨rfl, rfl⟩
  · exact ⟨rfl, rfl⟩
  · exact ⟨rfl, List.length_map _⟩

/-- **An expression and its skeleton have the same type**, under tables of the same outline. -/
lemma Expr.alike_skeleton (htables : t.outline = u.outline) (e : Expr) :
    Alike Eq (e.typeOf t) (e.skeleton.typeOf u) := by
  induction e with
  | term tm => exact (tm.alike_skeleton htables).bind_trace _ _
  | paren inner span ih =>
      -- The skeleton has no node here, and the node leaves nothing but an event.
      exact ih.bind_trace_left _
  | binary lhs ops rhs span ihl ihr =>
      obtain ⟨hsingle, hlength⟩ := singleOperator?_skeleton ops
      rw [skeleton, typeOf, typeOf, hsingle, hlength]
      cases singleOperator? ops with
      | none => exact matches_violate rfl
      | some op =>
          refine ihl.bind fun l l' hl => ihr.bind fun r r' hr => ?_
          subst hl hr
          exact (op.alike_skeleton span l r).bind_trace _ _

/-! ## Programs and their skeletons -/

lemma Assignment.alike_skeleton (htables : t.outline = u.outline) (a : Assignment) :
    Alike (fun t u => t.outline = u.outline) (a.check t) ((a.rewrite .skeleton).check u) := by
  refine (a.expr.alike_skeleton htables).bind fun ty ty' hty => ?_
  subst hty
  have hlookup : u.lookup (a.rewrite .skeleton).name.text = t.lookup a.name.text :=
    (SymbolTable.lookup_congr htables a.name.text).symm
  unfold settle
  rw [hlookup]
  split
  · split
    · exact matches_pure htables
    · exact matches_report rfl htables
  · exact matches_pure htables
  · exact .yields rfl rfl .nil (SymbolTable.outline_bind_congr htables _ rfl rfl)

lemma Decl.alike_noteRedeclaration (d d' : Decl) (ty ty' : Ty) :
    Alike (fun _ _ => True) (d.noteRedeclaration ty) (d'.noteRedeclaration ty') := by
  have hsilent : ∀ (d : Decl) ty, (d.noteRedeclaration ty).Yields [] () := fun _ _ =>
    Decl.noteRedeclaration_yields_iff.2 rfl
  refine .yields (hsilent d ty).2 (hsilent d' ty').2 ?_ trivial
  rw [(hsilent d ty).1, (hsilent d' ty').1]
  exact .nil

lemma Options.alike_checkCondition (o : Options) (e e' : Expr) (ty : Ty) :
    Alike (fun _ _ => True) (o.checkCondition e ty) (o.checkCondition e' ty) := by
  rw [checkCondition, checkCondition]
  split
  · exact .yields rfl rfl (.cons rfl .nil) trivial
  · exact matches_pure trivial

/-- **A visit and its skeleton are checked alike**, from tables of the same outline. -/
lemma Visit.alike_skeleton {o : Options} (v : Visit) (htables : t.outline = u.outline) :
    Alike (fun t u => t.outline = u.outline) (v.check o t) ((v.rewrite .skeleton).check o u) := by
  cases v with
  | declare d =>
      exact (d.alike_noteRedeclaration (d.rewrite .skeleton) _ _).bind fun _ _ _ =>
        matches_pure (SymbolTable.outline_bind_congr htables _ rfl rfl)
  | initializer d a =>
      have htarget : (a.rewrite .skeleton).name.text = (d.rewrite .skeleton).name.text ↔
          a.name.text = d.name.text := Iff.rfl
      simp only [rewrite, check, htarget]
      split
      · exact a.alike_skeleton htables
      · exact matches_violate rfl
  | assign a => exact a.alike_skeleton htables
  | condition e =>
      refine (e.alike_skeleton htables).bind fun ty ty' hty => ?_
      subst hty
      exact (o.alike_checkCondition e e.skeleton ty).bind fun _ _ _ => matches_pure htables
  | print e => exact (e.alike_skeleton htables).bind fun _ _ _ => matches_pure htables

lemma Program.alike_skeleton (o : Options) (p : Program) :
    Alike (fun t u => t.outline = u.outline) (Visit.run o p.visits .empty)
      (Visit.run o p.skeleton.visits .empty) := by
  have hvisits : p.skeleton.visits = p.visits.map (Visit.rewrite .skeleton) :=
    Stmt.visitsAll_rewriteAll .skeleton p.stmts
  rw [hvisits]
  exact Visit.matches_run (fun v _ t u htables => v.alike_skeleton htables) rfl

end

/-- **Checking depends on the skeleton of a program only.**

Let two programs have the same skeleton: they differ at most in places, in the values of literals,
in operators of the same class, in the operators of nodes that do not have exactly one, and in
parentheses.  Checked on any log with the same options, they are reported errors of the same content
one for one, and both yield tables of the same outline or both end at violations of the same
content. -/
theorem Log.check_of_same_skeleton (p q : Program) (h : p.skeleton = q.skeleton) (o : Options)
    (l : Log) :
    ∃ es ds, (l.check o p).1.entries = l.entries ++ es.map TypingError.diagnostic ∧
      (l.check o q).1.entries = l.entries ++ ds.map TypingError.diagnostic ∧
      List.Forall₂ (fun e d => e.content = d.content) es ds ∧
      ((∃ t u, (l.check o p).2 = .ok t ∧ (l.check o q).2 = .ok u ∧ t.outline = u.outline) ∨
        ∃ v w, (l.check o p).2 = .error v ∧ (l.check o q).2 = .error w ∧
          v.content = w.content) := by
  have hp := p.alike_skeleton o
  have hq := q.alike_skeleton o
  rw [← h] at hq
  exact l.check_of_matches (hp.join hq)

/-- A program on consecutive lines.  It compares an integer with a string, uses the unknown name `z`
and ends in a node with two operators. -/
def spelledPlainly : Program where
  stmts := [
    .decl ⟨⟨"x", .ofLine 1⟩, ⟨.int, .ofLine 1⟩, some ⟨⟨"x", .ofLine 1⟩,
      .term (.int ⟨1, .ofLine 1⟩), .ofLine 1⟩, .ofLine 1⟩,
    .ifThen (.binary (.term (.name ⟨"x", .ofLine 2⟩)) [⟨.lessThan, .ofLine 2⟩]
        (.term (.string ⟨"a", .ofLine 2⟩)) (.ofLine 2))
      [.assign ⟨⟨"y", .ofLine 3⟩, .term (.name ⟨"z", .ofLine 3⟩), .ofLine 3⟩] (.ofLine 2),
    .print (.binary (.term (.int ⟨1, .ofLine 4⟩)) [⟨.add, .ofLine 4⟩, ⟨.subtract, .ofLine 4⟩]
      (.term (.int ⟨2, .ofLine 4⟩)) (.ofLine 4)) (.ofLine 4)]
  span := .ofLine 1

/-- The same program on a single line, with other literals and operators and with parentheses. -/
def spelledOddly : Program where
  stmts := [
    .decl ⟨⟨"x", .ofLine 9⟩, ⟨.int, .ofLine 9⟩, some ⟨⟨"x", .ofLine 9⟩,
      .paren (.term (.int ⟨7, .ofLine 9⟩)) (.ofLine 9), .ofLine 9⟩, .ofLine 9⟩,
    .ifThen (.paren (.binary (.paren (.term (.name ⟨"x", .ofLine 9⟩)) (.ofLine 9))
        [⟨.notEquals, .ofLine 9⟩] (.term (.string ⟨"", .ofLine 9⟩)) (.ofLine 9)) (.ofLine 9))
      [.assign ⟨⟨"y", .ofLine 9⟩, .paren (.paren (.term (.name ⟨"z", .ofLine 9⟩)) (.ofLine 9))
        (.ofLine 9), .ofLine 9⟩] (.ofLine 9),
    .print (.binary (.term (.int ⟨3, .ofLine 9⟩)) [⟨.equals, .ofLine 9⟩, ⟨.equals, .ofLine 9⟩]
      (.term (.int ⟨3, .ofLine 9⟩)) (.ofLine 9)) (.ofLine 9)]
  span := .ofLine 9

theorem Log.check_spelled_plainly_oddly :
    spelledPlainly.skeleton = spelledOddly.skeleton ∧
      ∃ es ds, (Log.empty.check ⟨true⟩ spelledPlainly).1.entries = es.map TypingError.diagnostic ∧
        (Log.empty.check ⟨true⟩ spelledOddly).1.entries = ds.map TypingError.diagnostic ∧
        List.Forall₂ (fun e d => e.content = d.content) es ds ∧
        ∃ v w, (Log.empty.check ⟨true⟩ spelledPlainly).2 = .error v ∧
          (Log.empty.check ⟨true⟩ spelledOddly).2 = .error w ∧ v.content = w.content := by
  have hskeleton : spelledPlainly.skeleton = spelledOddly.skeleton := by decide
  obtain ⟨es, ds, hes, hds, hcontent, htables | hviolations⟩ :=
    Log.check_of_same_skeleton spelledPlainly spelledOddly hskeleton ⟨true⟩ .empty
  · obtain ⟨t, u, ht, -⟩ := htables
    cases ht
  · exact ⟨hskeleton, es, ds, hes, hds, hcontent, hviolations⟩

end ScriptTyping
