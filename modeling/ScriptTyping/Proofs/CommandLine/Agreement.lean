import ScriptTyping.Proofs.CommandLine.Phases
import ScriptTyping.Proofs.Typing.Structure

/-!
# The command and the embedded checker agree

There are two ways to have a text checked.  `summarize` takes the text and gives a text back; the
command finds the text in a file, dumps a table and tells diagnostics.  They notice failures in
different ways: one looks whether anything was reported, the other whether a diagnostic is an error.
And they treat a violation differently: one tells it alone, the other after all that was reported
before it.

The text is followed through both of them.  There are three cases: it is no tree
(`summarize_of_unreadable`), it is a malformed tree (`summarize_of_violation`), or its check yields
a table (`summarize_of_table`).  That the two notice the same failures comes from every report being
an error (`isError_of_mem_reports`).
-/

namespace ScriptTyping

lemma Program.wellFormed_iff (p : Program) (o : Options) :
    p.WellFormed ↔ ∃ t, (Log.empty.check o p).2 = .ok t := by
  have hyields : p.WellFormed ↔ ∃ es t, (Visit.run o p.visits .empty).Yields es t :=
    (Visit.exists_yields_iff o .empty p.visits).symm
  rw [hyields]
  constructor
  · rintro ⟨es, t, hrun⟩
    exact ⟨t, (Log.empty.check_of_yields hrun).2⟩
  · rintro ⟨t, ht⟩
    rw [Log.result_check] at ht
    exact ⟨_, t, rfl, ht⟩

namespace CommandLine

variable {text path : String} {p : Program} {v : Violation} {t : SymbolTable}

/-- What the command is asked to do with a single file, everything else left as it is. -/
def plainConfig (path : String) : Config := ⟨[path], .text, {}⟩

/-! ## The embedded checker -/

lemma summarize_of_unreadable {e : ReadError} (h : Program.ofRon text = .error e) :
    summarize text = .error (.unreadable e) := by
  rw [summarize, h]
  rfl

lemma summarize_of_violation (hp : Program.ofRon text = .ok p)
    (hv : (Log.empty.check {} p).2 = .error v) : summarize text = .error (.violation v) := by
  have hcheck : (p.check {}).result = .error v := hv
  rw [summarize, hp]
  simp only [Except.mapError, bind, Except.bind, hcheck]

lemma summarize_of_table (hp : Program.ofRon text = .ok p)
    (ht : (Log.empty.check {} p).2 = .ok t) :
    summarize text =
      if (p.check {}).errors.isEmpty then .ok t.text else .error (.typing (p.check {}).errors) := by
  have hcheck : (p.check {}).result = .ok t := ht
  rw [summarize, hp]
  simp only [Except.mapError, bind, Except.bind, hcheck]
  rfl

/-! ## The command on a single file -/

lemma isError_of_mem_reports {o : Options} {d : Diagnostic} (h : d ∈ reports o p) :
    d.level = .error := by
  rw [reports_eq, List.mem_map] at h
  obtain ⟨e, -, rfl⟩ := h
  rfl

/-- A run whose diagnostics are the reports of a program fails if there are any. -/
lemma Outcome.exitCode_of_reports {r : Outcome} {o : Options}
    (h : r.transcript.diagnostics = reports o p) :
    r.exitCode = if (p.check o).errors.isEmpty then 0 else 1 := by
  by_cases hempty : (p.check o).errors = []
  · rw [hempty, List.isEmpty_nil, if_pos rfl, Outcome.exitCode_eq_zero_iff, h, reports_eq, hempty]
    rintro ⟨d, hd, -⟩
    cases hd
  · obtain ⟨e, he⟩ := List.exists_mem_of_ne_nil _ hempty
    rw [List.isEmpty_eq_false_iff.2 hempty, if_neg Bool.false_ne_true,
      Outcome.exitCode_eq_one_iff, h, reports_eq]
    exact ⟨e.diagnostic, List.mem_map_of_mem he, Or.inr rfl⟩

variable {read : String → Except LoadError ByteArray}

lemma run_of_unreadable {e : ReadError} (hread : read path = .ok text.toUTF8)
    (h : Program.ofRon text = .error e) : (run read {} (plainConfig path)).exitCode = 1 := by
  have hfile : loadFile read path = .error (.unreadable e) := by
    rw [loadFile_of_text hread, h]
    rfl
  have hends : EndsLoading read {} (plainConfig path) (run read {} (plainConfig path)) :=
    run_endsLoading _ (List.mem_singleton_self path) hfile
  exact hends.failed

lemma run_of_malformed (hread : read path = .ok text.toUTF8) (hp : Program.ofRon text = .ok p)
    (hv : (Log.empty.check {} p).2 = .error v) :
    (run read {} (plainConfig path)).exitCode = 1 ∧
      (run read {} (plainConfig path)).transcript.diagnostics.filter (·.level = .fatal) =
        [v.diagnostic] := by
  have hloaded : Loaded read [path] ([] ++ [(path, p)]) := .cons (loadFile_eq_ok hread hp) .nil
  have hends : EndsChecking {} (plainConfig path) [] path p v (run read {} (plainConfig path)) :=
    run_endsChecking _ hloaded nofun hv
  have hreports : (reports {} p).filter (·.level = .fatal) = [] := by
    rw [List.filter_eq_nil_iff]
    intro d hd
    simp [isError_of_mem_reports hd]
  refine ⟨hends.failed, ?_⟩
  rw [hends.told, List.filter_append, List.flatMap_nil, List.nil_append]
  exact congrArg (· ++ [v.diagnostic]) hreports

lemma run_of_table (hread : read path = .ok text.toUTF8) (hp : Program.ofRon text = .ok p)
    (ht : (Log.empty.check {} p).2 = .ok t) :
    (run read {} (plainConfig path)).out.taken =
        ("# " ++ path ++ "\n" ++ t.text).toUTF8.data.toList ∧
      (run read {} (plainConfig path)).transcript.diagnostics = reports {} p :=
  alone_spec (c := plainConfig path) (loadFile_eq_ok hread hp) ht

end CommandLine

lemma SummaryError.text_typing (es : List TypingError) :
    (SummaryError.typing es).text = header ++
      String.join ((es.map TypingError.diagnostic).map fun d => "\n" ++ d.message.text) := by
  rw [text, messages, List.map_map, List.map_map]
  rfl

open CommandLine in
/-- **The command and the embedded checker agree on every text.**

Let a file hold a text, and let the command be run on this file alone, with text as its format,
without strict conditions and with room for all output.

* The text has a summary exactly if the run succeeds.  What the run writes is then a line with the
  name of the file, and the summary.
* If the text is a tree and has no summary, the run fails.  What the embedded checker says is its
  header and, each on a line of its own, the messages of all diagnostics of the run if the tree is
  well-formed.  If it is not, one diagnostic of the run is fatal, and only its message is told. -/
theorem summarize_agrees_with_run (text path : String)
    (read : String → Except LoadError ByteArray) (hread : read path = .ok text.toUTF8) :
    ((∃ s, summarize text = .ok s) ↔ (run read {} (plainConfig path)).exitCode = 0) ∧
    (∀ s, summarize text = .ok s → (run read {} (plainConfig path)).out.taken =
      ("# " ++ path ++ "\n" ++ s).toUTF8.data.toList) ∧
    ∀ p e, Program.ofRon text = .ok p → summarize text = .error e →
      (run read {} (plainConfig path)).exitCode = 1 ∧
      (p.WellFormed → e.text = SummaryError.header ++ String.join
        ((run read {} (plainConfig path)).transcript.diagnostics.map
          fun d => "\n" ++ d.message.text)) ∧
      (¬ p.WellFormed → ∃ d,
        (run read {} (plainConfig path)).transcript.diagnostics.filter (·.level = .fatal) = [d] ∧
          e.text = SummaryError.header ++ "\n" ++ d.message.text) := by
  cases hp : Program.ofRon text with
  | error e =>
      rw [summarize_of_unreadable hp, run_of_unreadable hread hp]
      exact ⟨by simp, nofun, nofun⟩
  | ok p =>
      cases hcheck : (Log.empty.check {} p).2 with
      | error v =>
          obtain ⟨hexit, hfatal⟩ := run_of_malformed hread hp hcheck
          rw [summarize_of_violation hp hcheck, hexit]
          refine ⟨by simp, nofun, fun p' e hp' he => ⟨rfl, fun hwf => ?_, fun _ => ?_⟩⟩
          · obtain rfl : p = p' := Except.ok.inj hp'
            obtain ⟨t, ht⟩ := (p.wellFormed_iff {}).1 hwf
            rw [hcheck] at ht
            cases ht
          · obtain rfl : SummaryError.violation v = e := Except.error.inj he
            refine ⟨v.diagnostic, hfatal, ?_⟩
            rw [SummaryError.text, SummaryError.messages, String.append_assoc]
            simp [Violation.diagnostic, Fault.diagnostic, Fault.message]
      | ok t =>
          obtain ⟨htaken, htold⟩ := run_of_table hread hp hcheck
          rw [summarize_of_table hp hcheck, Outcome.exitCode_of_reports htold, htaken]
          cases hempty : (p.check {}).errors.isEmpty with
          | true =>
              refine ⟨by simp, fun s hs => ?_, nofun⟩
              obtain rfl : t.text = s := Except.ok.inj hs
              rfl
          | false =>
              refine ⟨by simp, nofun, fun p' e hp' he => ⟨rfl, fun _ => ?_, fun hwf => ?_⟩⟩
              · obtain rfl : SummaryError.typing (p.check {}).errors = e := Except.error.inj he
                rw [htold, reports_eq, SummaryError.text_typing]
              · obtain rfl : p = p' := Except.ok.inj hp'
                exact absurd ((p.wellFormed_iff {}).2 ⟨t, hcheck⟩) hwf

open CommandLine in
/-- A text with a table, one with a typing error and one with a violation. -/
theorem summarize_agrees_on_threeFiles :
    (summarize declaresX.compactText = .ok "x: int\n" ∧
      (run threeFiles {} (plainConfig "declares")).exitCode = 0 ∧
      (run threeFiles {} (plainConfig "declares")).out.taken =
        ("# " ++ "declares" ++ "\n" ++ "x: int\n").toUTF8.data.toList) ∧
    (∃ e, summarize usesY.compactText = .error e ∧
      (run threeFiles {} (plainConfig "uses")).exitCode = 1 ∧
      e.text =
        "Type checking failed due to the following errors:\nUnknown identifier: y at line 1" ∧
      e.text = SummaryError.header ++ String.join
        ((run threeFiles {} (plainConfig "uses")).transcript.diagnostics.map
          fun d => "\n" ++ d.message.text)) ∧
    ∃ e, summarize lacksOperator.compactText = .error e ∧
      (run threeFiles {} (plainConfig "lacks")).exitCode = 1 ∧
      ∃ d, (run threeFiles {} (plainConfig "lacks")).transcript.diagnostics.filter
          (·.level = .fatal) = [d] ∧
        e.text = SummaryError.header ++ "\n" ++ d.message.text := by
  refine ⟨?_, ?_, ?_⟩
  · obtain ⟨hiff, htaken, -⟩ :=
      summarize_agrees_with_run declaresX.compactText "declares" threeFiles rfl
    have hsummary : summarize declaresX.compactText = .ok "x: int\n" :=
      summarize_of_table ofRon_declaresX rfl
    exact ⟨hsummary, hiff.1 ⟨_, hsummary⟩, htaken _ hsummary⟩
  · obtain ⟨-, -, herror⟩ := summarize_agrees_with_run usesY.compactText "uses" threeFiles rfl
    have hsummary : summarize usesY.compactText = .error (.typing [.unknownName ⟨"y", .origin⟩]) :=
      summarize_of_table ofRon_usesY rfl
    obtain ⟨hexit, hall, -⟩ := herror _ _ ofRon_usesY hsummary
    exact ⟨_, hsummary, hexit, by decide +kernel, hall (by decide)⟩
  · obtain ⟨-, -, herror⟩ :=
      summarize_agrees_with_run lacksOperator.compactText "lacks" threeFiles rfl
    have hsummary : summarize lacksOperator.compactText =
        .error (.violation (.operatorChain .origin 0)) :=
      summarize_of_violation ofRon_lacksOperator rfl
    obtain ⟨hexit, -, honly⟩ := herror _ _ ofRon_lacksOperator hsummary
    exact ⟨_, hsummary, hexit, honly (by decide)⟩

end ScriptTyping
