import ScriptTyping.Proofs.Typing.Trace

/-!
# The trace mirrors the run

The trace of a run can be relied on to tell what the log and the table say: the texts of all
reports, the variables that were adopted, the expressions that were typed and the declarations that
came too late, each of them once and in order.

What a visit marks in the trace depends on the table at that point.  What the marks have to do with
the table at the end is an induction over the visits of a run, for each kind of mark.  It rests on
the first binding of a name being the one that stays.
-/

namespace ScriptTyping

/-! ## Typed expressions -/

section

variable {o : Options} {t u : SymbolTable} {v : Visit} {vs : List Visit} {ty : Ty}

open Check Event

lemma overlooks_exprText? : Overlooks exprText? fun e => some e.text where
  reporting _ := rfl
  typed _ _ := rfl

lemma overlooks_adopting : Overlooks adopting fun _ => none where
  reporting _ := rfl
  typed _ _ := rfl

lemma overlooks_redeclaring : Overlooks redeclaring fun _ => none where
  reporting _ := rfl
  typed _ _ := rfl

/-- A mark tells of a redeclaration or of an adopted name. -/
lemma Visit.eq_of_mem_marks {e : Event} (he : e ∈ v.marks t ty) :
    (∃ x known b, e = .redeclared x known b) ∨ ∃ x, e = .adopted x ty := by
  cases v with
  | declare d =>
      rw [marks] at he
      split at he
      · next known _ =>
        split at he
        · cases he
        · exact Or.inl ⟨_, known, _, List.mem_singleton.1 he⟩
      · cases he
  | initializer _ a | assign a =>
      rw [marks] at he
      split at he
      · cases he
      · exact Or.inr ⟨_, List.mem_singleton.1 he⟩
  | condition _ | print _ => cases he

/-- The typed expressions in the trace of a run are those of its visits. -/
lemma Visit.exprs_run {xs : List String} (h : (run o vs t).Tells exprText? xs u) :
    xs = (vs.flatMap Visit.exprs).map Expr.text := by
  induction vs generalizing t xs with
  | nil => exact (tells_pure_iff.1 h).1
  | cons v vs ih =>
      obtain ⟨xs₁, t', xs₂, hv, hvs, rfl⟩ := run_cons_tells_iff.1 h
      obtain ⟨ty, -, rfl⟩ := tells_check overlooks_exprText? hv
      have hmarks : (v.marks t ty).filterMap exprText? = [] := by
        rw [List.filterMap_eq_nil_iff]
        intro e he
        rcases eq_of_mem_marks he with ⟨x, known, b, rfl⟩ | ⟨x, rfl⟩ <;> rfl
      rw [hmarks, ih hvs, List.append_nil, List.flatMap_cons, List.map_append,
        ← List.filterMap_eq_map]
      rfl

/-! ## Adopted names -/

/-- The entries of a table that were adopted from an assignment, in table order. -/
def SymbolTable.inferred (t : SymbolTable) : List (String × Binding) :=
  t.entries.filter fun e => e.2.kind = .inferred

/-- The name and the type of an entry, as an event shows them. -/
def adoptedFields (e : String × Binding) : List (Option String) := [some e.1, some e.2.ty.text]

/-- A visit adds to the adopted entries what its mark tells. -/
lemma Visit.inferred_marks : (v.effect t ty).inferred.map adoptedFields =
    t.inferred.map adoptedFields ++ (v.marks t ty).filterMap adopting := by
  have hassign : ∀ a : Assignment, ((assign a).effect t ty).inferred.map adoptedFields =
      t.inferred.map adoptedFields ++ ((assign a).marks t ty).filterMap adopting := by
    intro a
    rw [effect, marks]
    by_cases hbound : a.name.text ∈ t.names
    · rw [SymbolTable.bind_of_mem hbound, if_pos hbound, List.filterMap_nil, List.append_nil]
    · rw [SymbolTable.inferred, SymbolTable.entries_bind_of_notMem hbound, if_neg hbound,
        List.filter_append, List.map_append]
      rfl
  cases v with
  | declare d =>
      have hmarks : ((declare d).marks t ty).filterMap adopting = [] := by
        rw [marks]
        split
        · split <;> rfl
        · rfl
      rw [hmarks, List.append_nil, effect]
      by_cases hbound : d.name.text ∈ t.names
      · rw [SymbolTable.bind_of_mem hbound]
      · rw [SymbolTable.inferred, SymbolTable.entries_bind_of_notMem hbound, List.filter_append,
          List.map_append]
        exact List.append_nil _
  | initializer _ a => exact hassign a
  | assign a => exact hassign a
  | condition _ | print _ => exact (List.append_nil _).symm

/-- The adopted names in the trace of a run are the entries that it adds by assignment. -/
lemma Visit.inferred_run {xs : List (List (Option String))} (h : (run o vs t).Tells adopting xs u) :
    u.inferred.map adoptedFields = t.inferred.map adoptedFields ++ xs := by
  induction vs generalizing t xs with
  | nil =>
      obtain ⟨rfl, rfl⟩ := tells_pure_iff.1 h
      exact (List.append_nil _).symm
  | cons v vs ih =>
      obtain ⟨xs₁, t', xs₂, hv, hvs, rfl⟩ := run_cons_tells_iff.1 h
      obtain ⟨ty, rfl, rfl⟩ := tells_marks overlooks_adopting hv
      rw [ih hvs, inferred_marks, List.append_assoc]

/-! ## Redeclarations -/

/-- The declaration of a visit, if its name is known by then and the table has it with another type.
The unknown type is another type. -/
def Visit.redeclaration? (t : SymbolTable) (known : List String) : Visit → Option Decl
  | declare d =>
    if d.name.text ∈ known ∧ t.lookup d.name.text ≠ some (.base d.ty.value) then some d else none
  | initializer _ _ | assign _ | condition _ | print _ => none

/-- The declarations among visits that change nothing: each is of a name that is known, or that an
earlier visit establishes, and that the table has with another type. -/
def Visit.redeclarations (t : SymbolTable) (known : List String) : List Visit → List Decl
  | [] => []
  | v :: vs => (v.redeclaration? t known).toList ++ redeclarations t (known ++ v.target?.toList) vs

/-- The declarations of a program that come after their name has been established with another type,
in the order of the traversal.  The first binding of a name stays, so the type it was established
with is the one that the table `t` of the run has at the end. -/
def Program.redeclarations (p : Program) (t : SymbolTable) : List Decl :=
  Visit.redeclarations t [] p.visits

/-- The name of a declaration, the type that the table has instead and the declared type, as an
event shows them. -/
def redeclaredFields (t : SymbolTable) (d : Decl) : List (Option String) :=
  [some d.name.text, (t.lookup d.name.text).map Ty.text, some d.ty.value.keyword]

/-- The mark of a redeclaration tells of the table at that point, which the table at the end says no
different of. -/
lemma Visit.redeclaring_marks {known : List String} (hknown : ∀ x, x ∈ known ↔ x ∈ t.names)
    (hgrows : t.entries <+: u.entries) :
    (v.marks t ty).filterMap redeclaring =
      (v.redeclaration? u known).toList.map (redeclaredFields u) := by
  cases v with
  | declare d =>
      rw [marks, redeclaration?]
      cases hlookup : t.lookup d.name.text with
      | none =>
          have hfree : d.name.text ∉ known := fun hmem =>
            SymbolTable.lookup_eq_none_iff.1 hlookup ((hknown _).1 hmem)
          rw [if_neg fun h => hfree h.1]
          rfl
      | some before =>
          have hmem : d.name.text ∈ known :=
            (hknown _).2 (SymbolTable.mem_names_of_lookup hlookup)
          have hlater := SymbolTable.lookup_of_isPrefix hgrows hlookup
          by_cases hty : before = .base d.ty.value
          · rw [if_neg fun h => h.2 (hty ▸ hlater)]
            simp [hty]
          · have hother : u.lookup d.name.text ≠ some (.base d.ty.value) := by
              rw [hlater]
              exact fun h => hty (Option.some.inj h)
            rw [if_pos ⟨hmem, hother⟩]
            simp only [if_neg hty, Option.toList_some, List.map_cons, List.map_nil,
              redeclaredFields, hlater]
            rfl
  | initializer _ a | assign a =>
      rw [marks]
      split <;> rfl
  | condition _ | print _ => rfl

/-- The redeclarations in the trace of a run are those of its visits. -/
lemma Visit.redeclarations_run {xs : List (List (Option String))} {known : List String}
    (hknown : ∀ x, x ∈ known ↔ x ∈ t.names) (h : (run o vs t).Tells redeclaring xs u) :
    xs = (redeclarations u known vs).map (redeclaredFields u) := by
  induction vs generalizing t xs known with
  | nil => exact (tells_pure_iff.1 h).1
  | cons v vs ih =>
      obtain ⟨xs₁, t', xs₂, hv, hvs, rfl⟩ := run_cons_tells_iff.1 h
      obtain ⟨ty, rfl, rfl⟩ := tells_marks overlooks_redeclaring hv
      have hgrows : t.entries <+: u.entries :=
        isPrefix_effect.trans (isPrefix_run ⟨rfl, hvs.2⟩)
      have hnext : ∀ x, x ∈ known ++ v.target?.toList ↔ x ∈ (v.effect t ty).names := by
        intro x
        rw [mem_names_effect, List.mem_append, hknown, Option.mem_toList]
      rw [ih hnext hvs, redeclaring_marks hknown hgrows, redeclarations, List.map_append]

end

/-! ## Programs -/

namespace Program

variable {o : Options} {p : Program}

/-- The trace of a program that is checked to its end. -/
lemma events_of_ok {t : SymbolTable} (h : (Visit.run o p.visits .empty).result = .ok t) :
    (p.check o).events = .started p.stmts.length ::
      ((Visit.run o p.visits .empty).events ++ [.finished t.size]) := by
  rw [visits, ← Stmt.checkAll_eq_run] at h ⊢
  have hnotes : (p.check o).notes = .event (.started p.stmts.length) ::
      ((Stmt.checkAll o p.stmts .empty).notes ++ [.event (.finished t.size)]) := by
    rw [check, Check.bind_of_ok rfl, Check.bind_of_ok h]
    rfl
  rw [Check.events, hnotes, ← List.singleton_append, List.filterMap_append, List.filterMap_append]
  rfl

/-- The trace of a program that ends at a violation. -/
lemma events_of_error {v : Violation} (h : (Visit.run o p.visits .empty).result = .error v) :
    (p.check o).events = .started p.stmts.length :: (Visit.run o p.visits .empty).events := by
  rw [visits, ← Stmt.checkAll_eq_run] at h ⊢
  have hnotes : (p.check o).notes =
      .event (.started p.stmts.length) :: (Stmt.checkAll o p.stmts .empty).notes := by
    rw [check, Check.bind_of_ok rfl, Check.bind_of_error h]
    rfl
  rw [Check.events, hnotes, ← List.singleton_append, List.filterMap_append]
  rfl

/-- Reading the trace of a program by what neither its first nor its last event tells. -/
lemma filterMap_events {γ : Type} {f : Event → Option γ} (hstarted : ∀ n, f (.started n) = none)
    (hfinished : ∀ n, f (.finished n) = none) :
    (p.check o).events.filterMap f = (Visit.run o p.visits .empty).events.filterMap f := by
  cases h : (Visit.run o p.visits .empty).result with
  | error v => rw [events_of_error h, List.filterMap_cons_none (hstarted _)]
  | ok t =>
      rw [events_of_ok h, List.filterMap_cons_none (hstarted _), List.filterMap_append,
        List.filterMap_cons_none (hfinished _), List.filterMap_nil, List.append_nil]

/-- No event before the end of a run says that the run has ended. -/
lemma not_isClosing_of_mem_run {e : Event}
    (he : e ∈ .started p.stmts.length :: (Visit.run o p.visits .empty).events) :
    ¬ e.IsClosing := by
  rcases List.mem_cons.1 he with rfl | he
  · simp [Event.IsClosing, Event.message]
  · exact (Visit.announced_run .empty o p.visits).not_isClosing e he

end Program

/-- **The trace mirrors the run.**

Check a program on any log and with any options.

* The errors that the trace announces are the messages of the new entries of the log, whether the
  run yields a table or ends at a violation.
* If the run yields a table, then the variables that the trace tells to be adopted are the entries
  of the table that come from assignments, with their types and in the order of the table; the
  expressions whose types it tells are those of the program, with all their parts and each after its
  parts; and it tells of a redeclaration for each declaration that comes after its name has been
  established with another type.
* If the run yields a table, then the last event, and no other, says that the run has ended, and how
  many names are bound.  Otherwise no event says so. -/
theorem Log.check_mirrored (p : Program) (o : Options) (l : Log) :
    (∃ new, (l.check o p).1.entries = l.entries ++ new ∧
      (p.check o).events.filterMap Event.reported = new.map fun d => [some d.message.text]) ∧
    (∀ t, (l.check o p).2 = .ok t →
      (p.check o).events.filterMap Event.adopting = t.inferred.map adoptedFields ∧
      (p.check o).events.filterMap Event.exprText? = p.exprs.map Expr.text ∧
      (p.check o).events.filterMap Event.redeclaring =
        (p.redeclarations t).map (redeclaredFields t) ∧
      ∃ earlier e, (p.check o).events = earlier ++ [e] ∧ e.IsClosing ∧
        e.field? "symbols" = some t.size.repr ∧ ∀ e' ∈ earlier, ¬ e'.IsClosing) ∧
    ((∃ t, (l.check o p).2 = .ok t) ↔ ∃ e ∈ (p.check o).events, e.IsClosing) := by
  rw [Log.entries_check, Log.result_check]
  refine ⟨⟨_, rfl, ?_⟩, ?_, ?_⟩
  · rw [Program.filterMap_events (fun _ => rfl) fun _ => rfl, List.map_map]
    exact (Visit.announced_run .empty o p.visits).filterMap_reported
  · intro t ht
    rw [Program.filterMap_events (fun _ => rfl) fun _ => rfl,
      Program.filterMap_events (fun _ => rfl) fun _ => rfl,
      Program.filterMap_events (fun _ => rfl) fun _ => rfl]
    refine ⟨(Visit.inferred_run ⟨rfl, ht⟩).symm, Visit.exprs_run ⟨rfl, ht⟩,
      Visit.redeclarations_run (fun _ => Iff.rfl) ⟨rfl, ht⟩, ?_⟩
    exact ⟨_, .finished t.size, Program.events_of_ok ht, rfl, rfl,
      fun _ => Program.not_isClosing_of_mem_run⟩
  · constructor
    · rintro ⟨t, ht⟩
      rw [Program.events_of_ok ht]
      exact ⟨.finished t.size, by simp, rfl⟩
    · rintro ⟨e, he, hclosing⟩
      cases h : (Visit.run o p.visits .empty).result with
      | ok t => exact ⟨t, rfl⟩
      | error v =>
          rw [Program.events_of_error h] at he
          exact absurd hclosing (Program.not_isClosing_of_mem_run he)

/-- A program that assigns an unknown name to `x` before it declares `x`, below a condition, and
declares `y` twice. -/
def eventful : Program where
  stmts := [
    .assign ⟨⟨"x", .ofLine 1⟩, .term (.name ⟨"w", .ofLine 1⟩), .ofLine 1⟩,
    .decl ⟨⟨"y", .ofLine 2⟩, ⟨.bool, .ofLine 2⟩, none, .ofLine 2⟩,
    .ifThen (.paren (.binary (.term (.name ⟨"y", .ofLine 3⟩)) [⟨.add, .ofLine 3⟩]
        (.term (.string ⟨"s", .ofLine 3⟩)) (.ofLine 3)) (.ofLine 3)) [
      .decl ⟨⟨"x", .ofLine 4⟩, ⟨.int, .ofLine 4⟩, none, .ofLine 4⟩,
      .decl ⟨⟨"y", .ofLine 5⟩, ⟨.bool, .ofLine 5⟩, none, .ofLine 5⟩] (.ofLine 3),
    .assign ⟨⟨"z", .ofLine 6⟩, .term (.bool ⟨true, .ofLine 6⟩), .ofLine 6⟩]
  span := .ofLine 1

theorem Log.check_mirrored_eventful :
    ∃ t, (Log.empty.check {} eventful).2 = .ok t ∧
      (eventful.check {}).events.filterMap Event.reported =
        [[some (TypingError.unknownName ⟨"w", .ofLine 1⟩).message],
          [some (TypingError.operands (.ofLine 3) .bool .string).message]] ∧
      (eventful.check {}).events.filterMap Event.adopting =
        [[some "x", some Ty.unknown.text], [some "z", some (Ty.base .bool).text]] ∧
      (eventful.check {}).events.filterMap Event.exprText? =
        ["w", "y", "\"s\"", "y+\"s\"", "(y+\"s\")", "true"] ∧
      (eventful.check {}).events.filterMap Event.redeclaring =
        [[some "x", some Ty.unknown.text, some BaseTy.int.keyword]] ∧
      ∃ e ∈ (eventful.check {}).events, e.IsClosing := by
  obtain ⟨⟨new, hentries, hreported⟩, hok, hclosing⟩ := Log.check_mirrored eventful {} .empty
  obtain ⟨hadopted, hexprs, hredeclared, -⟩ := hok _ rfl
  obtain rfl : _ = new := hentries
  exact ⟨_, rfl, hreported, hadopted, hexprs.trans (by decide), hredeclared, hclosing.1 ⟨_, rfl⟩⟩

end ScriptTyping
