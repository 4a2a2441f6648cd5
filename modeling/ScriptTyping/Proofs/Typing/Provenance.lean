import ScriptTyping.Proofs.Typing.Rules

/-!
# Where the unknown type comes from

The unknown type is a sentinel: it agrees with every type, it can enter the table, and the listing
of a table leaves it out.  A fault that was replaced by it without a report could not be noticed
afterwards.  This file shows that there is no such fault: at every moment of every run, if an
expression has been found to have the unknown type or the table records it, an unknown name or
mismatched operands have been reported by then.

* `Visit.Moment` says what a moment of a run is: the table in effect and the notes taken so far.
  Every initial part of the notes of a run belongs to a moment (`Visit.exists_moment`), also if the
  run ends at a violation later.
* `Check.Backed` is the invariant for a part of a run.  It holds of a sequence if it holds of both
  halves, where the second half may blame the value that the first half has handed to it
  (`Check.Backed.bind`).
* `Expr.backed_typeOf` and `Visit.backed_check` establish it, one case for each form, and
  `Visit.Moment.originReported` carries it along a run.
-/

namespace ScriptTyping

/-! ## Moments of a run -/

/-- `Moment o vs t u ns` says that a run over `vs` from the table `t` is at some moment left with
the table `u` and the notes `ns`. -/
inductive Visit.Moment (o : Options) : List Visit → SymbolTable → SymbolTable → List Note → Prop
  /-- Nothing has been visited. -/
  | start (vs : List Visit) (t : SymbolTable) : Moment o vs t t []
  /-- In the middle of the first visit. The table is changed at the end of a visit only. -/
  | during {v : Visit} {vs : List Visit} {t : SymbolTable} {ns : List Note} :
      ns <+: (v.check o t).notes → Moment o (v :: vs) t t ns
  /-- After the first visit. -/
  | later {v : Visit} {vs : List Visit} {t t' u : SymbolTable} {ns : List Note} :
      (v.check o t).result = .ok t' → Moment o vs t' u ns →
        Moment o (v :: vs) t u ((v.check o t).notes ++ ns)

namespace Visit

variable {o : Options} {t u : SymbolTable} {vs : List Visit} {ns : List Note}

/-- Every initial part of the notes of a run has been all of its notes at some moment. -/
lemma exists_moment (h : ns <+: (run o vs t).notes) : ∃ u, Moment o vs t u ns := by
  induction vs generalizing t ns with
  | nil =>
      obtain rfl : ns = [] := List.prefix_nil.1 h
      exact ⟨t, .start [] t⟩
  | cons v vs ih =>
      rw [run_cons, Check.isPrefix_notes_bind_iff] at h
      rcases h with hduring | ⟨t', ms, ht', hms, rfl⟩
      · exact ⟨t, .during hduring⟩
      · obtain ⟨u, hu⟩ := ih hms
        exact ⟨u, .later ht' hu⟩

/-- The table that a run yields is the one of its last moment. -/
lemma Moment.last (h : (run o vs t).result = .ok u) : Moment o vs t u (run o vs t).notes := by
  induction vs generalizing t with
  | nil =>
      obtain rfl : t = u := Except.ok.inj h
      exact .start [] t
  | cons v vs ih =>
      obtain ⟨es₁, t', es₂, hv, hvs, -⟩ := run_cons_yields_iff.1 ⟨rfl, h⟩
      rw [run_cons, Check.bind_of_ok hv.2]
      exact .later hv.2 (ih hvs.2)

end Visit

/-! ## Origins -/

/-- The errors that make an expression have the unknown type. -/
def TypingError.IsOrigin : TypingError → Prop
  | unknownName _ | operands _ _ _ => True
  | assignment _ _ _ _ _ | condition _ _ => False

/-- One of the notes is the report of an origin. -/
def OriginReported (ns : List Note) : Prop := ∃ e, .error e ∈ ns ∧ e.IsOrigin

/-- One of the notes says that an expression has the unknown type. -/
def UnknownNoted (ns : List Note) : Prop := ∃ e, .event (.typed e .unknown) ∈ ns

/-- The table records a variable with the unknown type. -/
def SymbolTable.HasUnknown (t : SymbolTable) : Prop := ∃ x, t.lookup x = some .unknown

lemma OriginReported.mono {ns ms : List Note} (h : OriginReported ns) (hsub : ns ⊆ ms) :
    OriginReported ms := by
  obtain ⟨e, he, horigin⟩ := h
  exact ⟨e, hsub he, horigin⟩

/-- An origin that a computation notes is among the errors that it reports. -/
lemma OriginReported.exists_error {α : Type} {c : Check α} (h : OriginReported c.notes) :
    ∃ e ∈ c.errors, e.IsOrigin := by
  obtain ⟨e, he, horigin⟩ := h
  exact ⟨e, List.mem_filterMap.2 ⟨.error e, he, rfl⟩, horigin⟩

lemma unknownNoted_append_iff {ns ms : List Note} :
    UnknownNoted (ns ++ ms) ↔ UnknownNoted ns ∨ UnknownNoted ms := by
  simp only [UnknownNoted, List.mem_append, exists_or]

lemma SymbolTable.hasUnknown_bind {t : SymbolTable} {x : String} {b : Binding}
    (h : (t.bind x b).HasUnknown) : t.HasUnknown ∨ b.ty = .unknown := by
  obtain ⟨y, hy⟩ := h
  rcases lookup_bind_eq_some_iff.1 hy with hy | ⟨-, -, hb⟩
  · exact Or.inl ⟨y, hy⟩
  · exact Or.inr hb

namespace Check

variable {α β : Type} {c : Check α} {f : α → Check β} {excuse excuse' : Prop} {bad : α → Prop}
  {bad' : β → Prop}

/-- No unknown type goes without a report: neither one that an event tells of at some moment, nor
one that stands behind the value if this is `bad`.  All this unless there is an `excuse`, which is
to say that the unknown type came from outside. -/
structure Backed (excuse : Prop) (c : Check α) (bad : α → Prop) : Prop where
  noted : ∀ ns, ns <+: c.notes → UnknownNoted ns → excuse ∨ OriginReported ns
  value : ∀ a, c.result = .ok a → bad a → excuse ∨ OriginReported c.notes

lemma Backed.mono (h : c.Backed excuse bad) (hexcuse : excuse → excuse') :
    c.Backed excuse' bad where
  noted ns hns hunknown := (h.noted ns hns hunknown).imp_left hexcuse
  value a ha hbad := (h.value a ha hbad).imp_left hexcuse

/-- Where no event tells of an unknown type, only the value counts. -/
lemma backed_of_notes (hnotes : ¬ UnknownNoted c.notes)
    (hvalue : ∀ a, c.result = .ok a → bad a → excuse ∨ OriginReported c.notes) :
    c.Backed excuse bad where
  noted ns hns hunknown := by
    obtain ⟨e, he⟩ := hunknown
    exact absurd ⟨e, hns.subset he⟩ hnotes
  value := hvalue

lemma backed_pure {a : α} (h : bad a → excuse) : (pure a : Check α).Backed excuse bad := by
  refine backed_of_notes (by simp [UnknownNoted]) fun a' ha' hbad => Or.inl ?_
  obtain rfl : a = a' := Except.ok.inj ha'
  exact h hbad

/-- The second half of a sequence may blame the value of the first half. -/
lemma Backed.bind (hc : c.Backed excuse bad) (hf : ∀ a, (f a).Backed (excuse ∨ bad a) bad') :
    (c >>= f).Backed excuse bad' := by
  -- What the second half puts down to the value, the first half accounts for.
  have hblame : ∀ {a ms}, c.result = .ok a → (excuse ∨ bad a) ∨ OriginReported ms →
      excuse ∨ OriginReported (c.notes ++ ms) := by
    rintro a ms ha ((hexcuse | hbad) | horigin)
    · exact Or.inl hexcuse
    · exact (hc.value a ha hbad).imp_right fun h => h.mono (List.subset_append_left _ _)
    · exact Or.inr (horigin.mono (List.subset_append_right _ _))
  constructor
  · intro ns hns hunknown
    rcases isPrefix_notes_bind_iff.1 hns with hfirst | ⟨a, ms, ha, hms, rfl⟩
    · exact hc.noted ns hfirst hunknown
    · rcases unknownNoted_append_iff.1 hunknown with hunknown | hunknown
      · exact (hc.noted _ List.prefix_rfl hunknown).imp_right fun h =>
          h.mono (List.subset_append_left _ _)
      · exact hblame ha ((hf a).noted ms hms hunknown)
  · intro b hb hbad
    cases h : c.result with
    | error v => simp [result_bind_of_error h] at hb
    | ok a =>
        rw [result_bind_of_ok h] at hb
        rw [bind_of_ok h]
        exact hblame h ((hf a).value b hb hbad)

/-- A step that only leaves notes, none of them about an unknown type, has nothing to account
for. -/
lemma backed_note {c : Check Unit} (hnotes : ¬ UnknownNoted c.notes) :
    c.Backed excuse fun _ => False :=
  backed_of_notes hnotes fun _ _ hfalse => hfalse.elim

/-- A report of an origin backs whatever comes of it. -/
lemma backed_report {e : TypingError} (he : e.IsOrigin) (a : α) :
    (report e >>= fun _ => pure a : Check α).Backed excuse bad := by
  have hnotes : (report e >>= fun _ => pure a : Check α).notes =
      [.event (.reporting e), .error e] := rfl
  refine backed_of_notes ?_ fun _ _ _ => Or.inr ⟨e, by rw [hnotes]; simp, he⟩
  rw [hnotes, UnknownNoted]
  simp

/-- What every expression ends with, the event that tells its type and the type itself, may blame
the type. -/
lemma backed_typed (e : Expr) (ty : Ty) :
    (trace (.typed e ty) >>= fun _ => pure ty : Check Ty).Backed (excuse ∨ ty = .unknown)
      (· = .unknown) where
  noted ns hns hunknown := by
    obtain ⟨e', he'⟩ := hunknown
    have hmem : Note.event (.typed e' .unknown) ∈ [Note.event (.typed e ty)] := hns.subset he'
    simp only [List.mem_singleton, Note.event.injEq, Event.typed.injEq] at hmem
    exact Or.inl (Or.inr hmem.2.symm)
  value ty' hty' hbad := by
    obtain rfl : ty = ty' := Except.ok.inj hty'
    exact Or.inl (Or.inr hbad)

end Check

/-! ## Expressions -/

section Cases

variable {t : SymbolTable} {excuse : Prop}

open Check

lemma Term.backed_typeOf (tm : Term) : (tm.typeOf t).Backed t.HasUnknown (· = .unknown) := by
  cases tm with
  | name n =>
      rw [typeOf, Name.typeOf]
      cases h : t.lookup n.text with
      | none => exact backed_report (by trivial) _
      | some ty => exact backed_pure fun hty => ⟨n.text, hty ▸ h⟩
  | int _ | string _ | bool _ => exact backed_pure fun hty => by cases hty

lemma Operator.backed_typeOf (span : Span) (op : Operator) (l r : Ty) :
    (op.typeOf span l r).Backed ((excuse ∨ l = .unknown) ∨ r = .unknown) (· = .unknown) := by
  cases l with
  | unknown => exact backed_pure fun _ => Or.inl (Or.inr rfl)
  | base a =>
      cases r with
      | unknown => exact backed_pure fun _ => Or.inr rfl
      | base b =>
          rw [typeOf]
          split
          · refine backed_pure fun hty => ?_
            split at hty <;> cases hty
          · exact backed_report (by trivial) _

/-- An expression that has the unknown type, or a part of it that has, contains a fault that has
been reported or a variable that is recorded with the unknown type. -/
lemma Expr.backed_typeOf (e : Expr) : (e.typeOf t).Backed t.HasUnknown (· = .unknown) := by
  induction e with
  | term tm => exact tm.backed_typeOf.bind fun ty => backed_typed _ ty
  | paren inner span ih => exact ih.bind fun ty => backed_typed _ ty
  | binary lhs ops rhs span ihl ihr =>
      rw [typeOf]
      cases singleOperator? ops with
      | none => exact backed_of_notes (by simp [violate, UnknownNoted]) fun ty hty => by cases hty
      | some op =>
          exact ihl.bind fun l => (ihr.mono Or.inl).bind fun r =>
            (op.backed_typeOf span l r).bind fun ty => backed_typed _ ty

/-! ## Visits -/

lemma Assignment.backed_settle (a : Assignment) (ty : Ty) :
    (a.settle t ty).Backed (t.HasUnknown ∨ ty = .unknown) SymbolTable.HasUnknown := by
  unfold settle
  split
  · split
    · exact backed_pure Or.inl
    · exact (backed_note (by simp [UnknownNoted, report])).bind fun _ => backed_pure fun h =>
        Or.inl (Or.inl h)
  · exact backed_pure Or.inl
  · exact (backed_note (by simp [UnknownNoted, trace])).bind fun _ => backed_pure fun h =>
      Or.inl (SymbolTable.hasUnknown_bind h)

lemma Assignment.backed_check (a : Assignment) :
    (a.check t).Backed t.HasUnknown SymbolTable.HasUnknown :=
  a.expr.backed_typeOf.bind a.backed_settle

lemma Decl.backed_noteRedeclaration (d : Decl) (ty : Ty) :
    (d.noteRedeclaration ty).Backed excuse fun _ => False := by
  rw [noteRedeclaration]
  split <;> exact backed_note (by simp [UnknownNoted, trace])

lemma Options.backed_checkCondition (o : Options) (e : Expr) (ty : Ty) :
    (o.checkCondition e ty).Backed excuse fun _ => False := by
  rw [checkCondition]
  split <;> exact backed_note (by simp [UnknownNoted, report])

namespace Visit

variable {o : Options} {u : SymbolTable} {vs : List Visit} {ns : List Note}

/-- **No visit brings in an unknown type without a report**, be it in an event or in the table. -/
lemma backed_check (v : Visit) : (v.check o t).Backed t.HasUnknown SymbolTable.HasUnknown := by
  cases v with
  | declare d =>
      refine (d.backed_noteRedeclaration _).bind fun _ => backed_pure fun h => Or.inl ?_
      exact (SymbolTable.hasUnknown_bind h).resolve_right nofun
  | initializer d a =>
      rw [check]
      split
      · exact a.backed_check
      · exact backed_of_notes (by simp [violate, UnknownNoted]) fun u hu => by cases hu
  | assign a => exact a.backed_check
  | condition e =>
      exact e.backed_typeOf.bind fun ty => (o.backed_checkCondition e ty).bind fun _ =>
        backed_pure fun h => Or.inl (Or.inl h)
  | print e => exact e.backed_typeOf.bind fun _ => backed_pure Or.inl

/-- **At every moment, the unknown type has been reported**, unless it was in the table from the
start. -/
lemma Moment.originReported (h : Moment o vs t u ns) (hunknown : u.HasUnknown ∨ UnknownNoted ns) :
    t.HasUnknown ∨ OriginReported ns := by
  induction h with
  | start vs t =>
      rcases hunknown with htable | ⟨e, he⟩
      · exact Or.inl htable
      · cases he
  | during hns =>
      rcases hunknown with htable | hnoted
      · exact Or.inl htable
      · exact (backed_check _).noted _ hns hnoted
  | @later v vs t t' u ns ht' _ ih =>
      have hfirst : t'.HasUnknown ∨ UnknownNoted (v.check o t).notes →
          t.HasUnknown ∨ OriginReported (v.check o t).notes := fun h =>
        h.elim (v.backed_check.value t' ht') (v.backed_check.noted _ List.prefix_rfl)
      have hleft : t.HasUnknown ∨ OriginReported (v.check o t).notes →
          t.HasUnknown ∨ OriginReported ((v.check o t).notes ++ ns) :=
        Or.imp_right fun h => h.mono (List.subset_append_left _ _)
      rw [unknownNoted_append_iff, or_left_comm] at hunknown
      rcases hunknown with hnoted | hrest
      · exact hleft (hfirst (Or.inr hnoted))
      · rcases ih hrest with htable | horigin
        · exact hleft (hfirst (Or.inl htable))
        · exact Or.inr (horigin.mono (List.subset_append_right _ _))

/-! ## What the table records -/

/-- Only an assignment can record a variable with the unknown type. -/
lemma inferred_effect {v : Visit} {ty : Ty}
    (h : ∀ e ∈ t.entries, e.2.ty = .unknown → e.2.kind = .inferred) :
    ∀ e ∈ (v.effect t ty).entries, e.2.ty = .unknown → e.2.kind = .inferred := by
  intro e he hunknown
  cases v with
  | declare d =>
      rcases SymbolTable.mem_entries_bind he with he | rfl
      · exact h e he hunknown
      · cases hunknown
  | initializer _ a | assign a =>
      rcases SymbolTable.mem_entries_bind he with he | rfl
      · exact h e he hunknown
      · rfl
  | condition _ | print _ => exact h e he hunknown

lemma Moment.inferred (h : Moment o vs t u ns)
    (ht : ∀ e ∈ t.entries, e.2.ty = .unknown → e.2.kind = .inferred) :
    ∀ e ∈ u.entries, e.2.ty = .unknown → e.2.kind = .inferred := by
  induction h with
  | start _ _ | during _ => exact ht
  | later ht' _ ih =>
      obtain ⟨ty, rfl⟩ := exists_effect ⟨rfl, ht'⟩
      exact ih (inferred_effect ht)

end Visit

end Cases

/-- The table shows all that it has: every entry is of known type, and the listing and the text of
the table run over all entries. -/
structure SymbolTable.FullyShown (t : SymbolTable) : Prop where
  known : ∀ e ∈ t.entries, ∃ b, e.2.ty = .base b
  typed : t.typed.map (fun e => (e.1, Ty.base e.2)) = t.entries.map fun e => (e.1, e.2.ty)
  length : t.typed.length = t.size
  text : t.text = String.join (t.entries.map fun e => e.1 ++ ": " ++ e.2.ty.text ++ "\n")

lemma SymbolTable.fullyShown_of_not_hasUnknown {t : SymbolTable} (h : ¬ t.HasUnknown) :
    t.FullyShown := by
  have hknown : ∀ e ∈ t.entries, ∃ b, e.2.ty = .base b := by
    intro e he
    cases hty : e.2.ty with
    | base b => exact ⟨b, rfl⟩
    | unknown => exact absurd ⟨e.1, hty ▸ lookup_of_mem_entries he⟩ h
  have htyped : t.typed.map (fun e => (e.1, Ty.base e.2)) =
      t.entries.map fun e => (e.1, e.2.ty) := by
    rw [SymbolTable.typed, List.map_filterMap, ← List.filterMap_eq_map]
    refine List.filterMap_congr fun e he => ?_
    obtain ⟨b, hb⟩ := hknown e he
    simp [hb, Ty.base?]
  refine ⟨hknown, htyped, ?_, ?_⟩
  · simpa [SymbolTable.size] using congrArg List.length htyped
  · have hlines := congrArg (List.map fun e => e.1 ++ ": " ++ e.2.text ++ "\n") htyped
    rw [List.map_map, List.map_map] at hlines
    exact congrArg String.join hlines

/-! ## Programs -/

/-- The last note of a typed expression tells its type. -/
lemma Expr.notes_typeOf {t : SymbolTable} {e : Expr} {ty : Ty} (h : (e.typeOf t).result = .ok ty) :
    ∃ ns, (e.typeOf t).notes = ns ++ [.event (.typed e ty)] := by
  have hlast : ∀ c : Check Ty, e.typeOf t = (c >>= fun ty' =>
      Check.trace (.typed e ty') >>= fun _ => pure ty') →
        ∃ ns, (e.typeOf t).notes = ns ++ [.event (.typed e ty)] := by
    intro c hc
    rw [hc] at h ⊢
    cases hresult : c.result with
    | error v => simp [Check.result_bind_of_error hresult] at h
    | ok ty' =>
        rw [Check.result_bind_of_ok hresult] at h
        obtain rfl : ty' = ty := Except.ok.inj h
        rw [Check.bind_of_ok hresult]
        exact ⟨c.notes, rfl⟩
  cases e with
  | term tm => exact hlast _ rfl
  | paren inner span => exact hlast _ rfl
  | binary lhs ops rhs span =>
      rw [typeOf] at h
      cases hop : singleOperator? ops with
      | none => simp [hop, Check.violate] at h
      | some op =>
          refine hlast (lhs.typeOf t >>= fun l => rhs.typeOf t >>= fun r => op.typeOf span l r) ?_
          simp only [typeOf, hop, bind_assoc]

lemma SymbolTable.not_hasUnknown_empty : ¬ SymbolTable.empty.HasUnknown := by
  rintro ⟨x, hx⟩
  cases hx

/-- If a program is checked without a report of an origin, no unknown type is left in its table. -/
lemma Log.fullyShown_of_no_origin {l : Log} {o : Options} {p : Program} {t : SymbolTable}
    {new : List Diagnostic} (hok : (l.check o p).2 = .ok t)
    (hnew : (l.check o p).1.entries = l.entries ++ new)
    (hnone : ∀ e : TypingError, e.IsOrigin → e.diagnostic ∉ new) : t.FullyShown := by
  refine SymbolTable.fullyShown_of_not_hasUnknown fun hunknown => ?_
  rw [Log.result_check] at hok
  rw [Log.entries_check, List.append_cancel_left_eq] at hnew
  rcases (Visit.Moment.last hok).originReported (Or.inl hunknown) with hempty | hreported
  · exact SymbolTable.not_hasUnknown_empty hempty
  · obtain ⟨e, he, horigin⟩ := hreported.exists_error
    exact hnone e horigin (hnew ▸ List.mem_map_of_mem he)

/-- **The unknown type is never without a report of its origin.**

Take a program and options.

* At every moment of the run, an entry of unknown type was adopted from an assignment; a declared
  one is of known type.  If there is an entry of unknown type, or an expression has been found to
  have the unknown type, then an unknown name or mismatched operands have been reported by that
  moment.
* The moments cover the run, also if it ends at a violation: every initial part of what it notes
  belongs to one, and the table that it yields belongs to the last.  What the type of an expression
  was found to be is always noted.
* If the run yields a table and reports nothing, all entries of the table are of known type and are
  listed.  For this it is enough that no unknown name and no mismatched operands are reported. -/
theorem Log.check_unknown_after_origin (o : Options) (p : Program) :
    (∀ t ns, Visit.Moment o p.visits .empty t ns →
      (∀ e ∈ t.entries, e.2.ty = .unknown → e.2.kind = .inferred) ∧
        ((∃ e ∈ t.entries, e.2.ty = .unknown) ∨ UnknownNoted ns → OriginReported ns)) ∧
      (∀ ns, ns <+: (Stmt.checkAll o p.stmts .empty).notes →
        ∃ t, Visit.Moment o p.visits .empty t ns) ∧
      (∀ (t : SymbolTable) (e : Expr) ty, (e.typeOf t).result = .ok ty →
        ∃ ns, (e.typeOf t).notes = ns ++ [.event (.typed e ty)]) ∧
      ∀ (l : Log) t, (l.check o p).2 = .ok t →
        Visit.Moment o p.visits .empty t (Stmt.checkAll o p.stmts .empty).notes ∧
          ((l.check o p).1.entries = l.entries → t.FullyShown) ∧
          ∀ new, (l.check o p).1.entries = l.entries ++ new →
            (∀ e : TypingError, e.IsOrigin → e.diagnostic ∉ new) → t.FullyShown := by
  refine ⟨fun t ns hmoment => ⟨hmoment.inferred (by simp [SymbolTable.empty]), ?_⟩, ?_,
    fun t e ty => Expr.notes_typeOf, fun l t hok => ⟨?_, ?_, ?_⟩⟩
  · intro hunknown
    have htable : t.HasUnknown ∨ UnknownNoted ns := hunknown.imp_left fun ⟨e, he, hty⟩ =>
      ⟨e.1, hty ▸ SymbolTable.lookup_of_mem_entries he⟩
    exact (hmoment.originReported htable).resolve_left SymbolTable.not_hasUnknown_empty
  · intro ns hns
    rw [Stmt.checkAll_eq_run] at hns
    exact Visit.exists_moment hns
  · rw [Log.result_check] at hok
    rw [Stmt.checkAll_eq_run]
    exact .last hok
  · intro hentries
    rw [← List.append_nil l.entries] at hentries
    exact Log.fullyShown_of_no_origin hok hentries (by simp)
  · exact fun new => Log.fullyShown_of_no_origin hok

/-- A program in which the unknown name `y` makes `x` unknown, and `x` makes `z` unknown. -/
def spreads : Program where
  stmts := [
    .assign ⟨⟨"x", .ofLine 1⟩, .term (.name ⟨"y", .ofLine 1⟩), .ofLine 1⟩,
    .ifThen (.term (.name ⟨"x", .ofLine 2⟩)) [
      .assign ⟨⟨"z", .ofLine 3⟩,
        .binary (.term (.name ⟨"x", .ofLine 3⟩)) [⟨.add, .ofLine 3⟩] (.term (.int ⟨1, .ofLine 3⟩))
          (.ofLine 3), .ofLine 3⟩] (.ofLine 2)]
  span := .ofLine 1

/-- A program with a wrong initializer and a wrong condition, but without an unknown type. -/
def mismatches : Program where
  stmts := [
    .decl ⟨⟨"a", .ofLine 1⟩, ⟨.int, .ofLine 1⟩, some ⟨⟨"a", .ofLine 1⟩,
      .term (.bool ⟨true, .ofLine 1⟩), .ofLine 1⟩, .ofLine 1⟩,
    .ifThen (.term (.name ⟨"a", .ofLine 2⟩)) [] (.ofLine 2)]
  span := .ofLine 1

theorem Log.check_spreads_mismatches :
    (∃ t ns, Visit.Moment {} spreads.visits .empty t ns ∧
      t.find? "z" = some ⟨.unknown, .inferred, .ofLine 3⟩ ∧ OriginReported ns) ∧
      ∃ t, (Log.empty.check ⟨true⟩ mismatches).2 = .ok t ∧
        (Log.empty.check ⟨true⟩ mismatches).1.entries =
          [(TypingError.assignment (.ofLine 1) ⟨"a", .ofLine 1⟩ .int "true" .bool).diagnostic,
            (TypingError.condition (.ofLine 2) (.base .int)).diagnostic] ∧
        t.FullyShown := by
  obtain ⟨hmoment, -, -, hlast⟩ := Log.check_unknown_after_origin {} spreads
  obtain ⟨-, -, -, hshown⟩ := Log.check_unknown_after_origin ⟨true⟩ mismatches
  refine ⟨⟨_, _, (hlast .empty _ rfl).1, rfl, ?_⟩, _, rfl, rfl, (hshown .empty _ rfl).2.2 _ rfl ?_⟩
  · exact (hmoment _ _ (hlast .empty _ rfl).1).2
      (Or.inl ⟨("z", ⟨.unknown, .inferred, .ofLine 3⟩), by decide, rfl⟩)
  · intro e horigin hmem
    cases e with
    | unknownName _ | operands _ _ _ => simp [TypingError.diagnostic, Fault.diagnostic] at hmem
    | assignment _ _ _ _ _ | condition _ _ => exact horigin

end ScriptTyping
