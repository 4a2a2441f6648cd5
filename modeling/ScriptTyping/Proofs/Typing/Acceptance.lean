import ScriptTyping.Proofs.Typing.Establishment
import ScriptTyping.Proofs.Typing.Recovery

/-!
# What the checker accepts

The checker keeps a table that grows along the traversal, in which the first binding of a name is
the one that stays.  The declarative system knows no table: one typing `G` of the names is good for
the whole program.  `Log.check_accepts_iff_typable` says that the two accept the same programs.

An accepted program is typed by its final table (`Program.typedBy_of_silent`).  Conversely, a typing
leaves only unknown names to report, which is recovery (`Visit.recovers_run`), and where every use
is established no unknown name is reported either, which is `Visit.filterMap_run`.
-/

namespace ScriptTyping

lemma TypingError.eq_nil_of_unknownNames {es : List TypingError}
    (hes : ∀ e ∈ es, e.IsUnknownName) (hnames : es.filterMap TypingError.unknownName? = []) :
    es = [] := by
  rw [List.eq_nil_iff_forall_not_mem]
  intro e he
  obtain ⟨n, rfl⟩ := hes e he
  have hnone := List.filterMap_eq_nil_iff.1 hnames _ he
  simp [TypingError.unknownName?] at hnone

/-- **Completeness.**  A well-formed program that some typing types is checked without a report. -/
lemma Program.TypedBy.silent {p : Program} {o : Options} {G : String → BaseTy}
    (h : p.TypedBy o G) (hp : p.WellFormed) :
    ∃ t, (Visit.run o p.visits .empty).Yields [] t := by
  obtain ⟨es, t, hrun⟩ := hp.exists_yields o .empty
  obtain ⟨hes, -⟩ := Visit.recovers_run SymbolTable.approximates_empty h.typed h.declared hrun
  have hnames : es.filterMap TypingError.unknownName? = unestablished [] p.footprints :=
    Visit.filterMap_run (by simp) hrun
  rw [Program.established_iff.1 h.established] at hnames
  obtain rfl := TypingError.eq_nil_of_unknownNames hes hnames
  exact ⟨t, hrun⟩

/-- **The checker accepts the typable programs.**

On any log and with any options, the check of a program yields a table and appends nothing to the
log exactly when the program is well-formed and one typing of the names is good for all of it. -/
theorem Log.check_accepts_iff_typable (l : Log) (o : Options) (p : Program) :
    ((∃ t, (l.check o p).2 = .ok t) ∧ (l.check o p).1.entries = l.entries) ↔
      p.WellFormed ∧ ∃ G, p.TypedBy o G := by
  constructor
  · rintro ⟨⟨t, hok⟩, hentries⟩
    have hrun := l.check_silent_iff.1 ⟨hok, hentries⟩
    exact ⟨(Visit.exists_yields_iff o .empty p.visits).1 ⟨[], t, hrun⟩,
      t.typing, (Program.typedBy_of_silent hrun).1⟩
  · rintro ⟨hp, G, hG⟩
    obtain ⟨t, hrun⟩ := hG.silent hp
    obtain ⟨hok, hentries⟩ := l.check_silent_iff.2 hrun
    exact ⟨⟨t, hok⟩, hentries⟩

end ScriptTyping
