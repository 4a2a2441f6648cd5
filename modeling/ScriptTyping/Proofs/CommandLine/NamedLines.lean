import ScriptTyping.Proofs.CommandLine.Phases
import ScriptTyping.Proofs.Typing.Structure

/-!
# The line that a message names

Every fault has a place, and the line on which the place starts is the line of its diagnostic.  Its
message names a line as well, in the middle of a text.  The two are found independently of each
other, and this file says when they are the same.

`Fault.around` is the text of a fault with a gap where the number of the line goes.  The places of a
fault do not occur in it, so they enter a message through the number alone, and a message names one
line only (`Fault.Names.unique`).

For typing errors and for chains of operators, the line that is named is that of the place.  A wrong
target of an initializer is the exception: its place is that of the target, but its message tells
where the declared name stands.  `checkEach_names_lines` says that the second phase of a run emits
no other diagnostic whose message names another line than its own, and that it emits this one
exactly if the first malformed node of the program is such an initializer, with its two names on
different lines.
-/

namespace ScriptTyping

/-! ## Messages with a gap -/

/-- The text of a typing error up to where it names a line. -/
def TypingError.subject : TypingError → String
  | unknownName n => "Unknown identifier: " ++ n.text
  | operands _ lhs rhs => "Type mismatch: " ++ lhs.keyword ++ " and " ++ rhs.keyword
  | assignment _ n expected exprText actual =>
    "Type mismatch in " ++ n.text ++ " (" ++ expected.keyword ++ ") = " ++ exprText ++ " ("
      ++ actual.keyword ++ ")"
  | condition _ ty => "Condition must be bool, found " ++ ty.text

namespace Fault

/-- The text of a fault before and after the number of the line that it names. -/
def around : Fault → String × String
  | typing e => (e.subject ++ " at line ", "")
  | violation (.operatorChain _ count) =>
    ("malformed tree: binary expression at line ",
      " has " ++ count.repr ++ " operators, expected exactly 1")
  | violation (.initializerTarget declared target) =>
    ("malformed tree: declaration of `" ++ declared.text ++ "` at line ",
      " is initialized by an assignment to `" ++ target.text ++ "`")

/-- A text is that of the fault with the given line in the gap. -/
def Names (f : Fault) (text : String) (line : UInt64) : Prop :=
  text = f.around.1 ++ line.toNat.repr ++ f.around.2

variable {f : Fault} {level : Level} {line : UInt64}

/-- A text names one line only. -/
lemma Names.unique {text : String} {line' : UInt64} (h : f.Names text line)
    (h' : f.Names text line') : line = line' := by
  have htext : f.around.1 ++ line.toNat.repr ++ f.around.2 =
      f.around.1 ++ line'.toNat.repr ++ f.around.2 := h.symm.trans h'
  rw [String.append_left_inj, String.append_right_inj] at htext
  -- A number is read back from its digits.
  have hread : Ron.natural? line.toNat.repr = Ron.natural? line'.toNat.repr := by rw [htext]
  have hline : some line = some line' :=
    (Ron.natural?_repr line).symm.trans (hread.trans (Ron.natural?_repr line'))
  exact Option.some.inj hline

/-- The line that the message of a fault names: that of its place, or that of a declared name whose
initializer has another target. -/
def namedLine : Fault → UInt64
  | typing e => e.span.line
  | violation (.operatorChain span _) => span.line
  | violation (.initializerTarget declared _) => declared.span.line

lemma names_message (f : Fault) : f.Names f.message f.namedLine := by
  cases f with
  | typing e =>
      have hmessage : e.message = e.subject ++ (" at line " ++ e.span.line.toNat.repr) := by
        cases e <;> rfl
      change e.message = e.subject ++ " at line " ++ e.span.line.toNat.repr ++ ""
      rw [hmessage, String.append_empty, String.append_assoc]
  | violation v =>
      cases v with
      | operatorChain span count =>
          dsimp only [Names, message, Violation.message, around, namedLine]
          rw [← String.append_assoc, ← String.append_assoc]
      | initializerTarget declared target =>
          dsimp only [Names, message, Violation.message, around, namedLine]
          rw [← String.append_assoc, ← String.append_assoc]

lemma names_message_iff : f.Names f.message line ↔ line = f.namedLine := by
  constructor
  · exact fun h => h.unique f.names_message
  · rintro rfl
    exact f.names_message

/-- The one fault whose message may name another line than that of its place. -/
lemma namedLine_eq_iff : f.namedLine = f.span.line ↔ ∀ declared target,
    f = .violation (.initializerTarget declared target) →
      declared.span.line = target.span.line := by
  constructor
  · rintro h declared target rfl
    exact h
  · intro h
    cases f with
    | typing e => rfl
    | violation v =>
        cases v with
        | operatorChain span count => rfl
        | initializerTarget declared target => exact h declared target rfl

end Fault

namespace Diagnostic

/-- The diagnostic tells about a fault, and its text names the line. -/
def NamesLine (d : Diagnostic) (line : UInt64) : Prop :=
  ∃ f, d.cause = some (.fault f) ∧ f.Names d.message.text line

/-- The line that the text names is the one that the diagnostic is attributed to. -/
def NamesItsLine (d : Diagnostic) : Prop := ∀ line, d.NamesLine line ↔ d.line = some line

end Diagnostic

variable {f : Fault} {level : Level} {line : UInt64}

lemma Fault.namesLine_diagnostic_iff :
    (f.diagnostic level).NamesLine line ↔ line = f.namedLine := by
  rw [← Fault.names_message_iff]
  constructor
  · rintro ⟨g, hg, hnames⟩
    obtain rfl : f = g := Cause.fault.inj (Option.some.inj hg)
    exact hnames
  · intro hnames
    exact ⟨f, rfl, hnames⟩

/-- The diagnostic of a fault names its line unless the fault is a wrong target on another line than
the declared name. -/
lemma Fault.namesItsLine_diagnostic_iff : (f.diagnostic level).NamesItsLine ↔
    ∀ declared target, f = .violation (.initializerTarget declared target) →
      declared.span.line = target.span.line := by
  have hline : (f.diagnostic level).line = some f.span.line := rfl
  rw [← Fault.namedLine_eq_iff, Diagnostic.NamesItsLine]
  simp only [Fault.namesLine_diagnostic_iff, hline, Option.some.injEq]
  constructor
  · intro h
    exact ((h f.namedLine).1 rfl).symm
  · intro h line
    rw [h, eq_comm]

/-! ## The second phase -/

namespace CommandLine

variable {o : Options} {ps : List (String × Program)}

lemma checkEach_cons_of_ok {path : String} {p : Program} {t : SymbolTable}
    (h : (Log.empty.check o p).2 = .ok t) (rest : List (String × Program)) :
    checkEach o ((path, p) :: rest) = (checkEntries o path p ++ (checkEach o rest).1,
      (checkEach o rest).2.map ((path, t) :: ·)) := by
  have hcheck : (p.check o).result = .ok t := h
  rw [checkEach, hcheck]

lemma exists_error_of_mem_reports {p : Program} {d : Diagnostic} (h : d ∈ reports o p) :
    ∃ e : TypingError, d = e.diagnostic := by
  rw [reports_eq] at h
  obtain ⟨e, -, rfl⟩ := List.mem_map.1 h
  exact ⟨e, rfl⟩

/-- **What the second phase emits**: typing errors, and the violation that it ends at. -/
lemma mem_diagnostics_checkEach {d : Diagnostic} (h : d ∈ (checkEach o ps).1.diagnostics) :
    (∃ e : TypingError, d = e.diagnostic) ∨
      ∃ v, (checkEach o ps).2 = .error v ∧ d = v.diagnostic := by
  induction ps with
  | nil => cases h
  | cons q ps ih =>
      obtain ⟨path, p⟩ := q
      cases hcheck : (Log.empty.check o p).2 with
      | error v =>
          rw [checkEach_of_error hcheck, Transcript.diagnostics_append, diagnostics_checkEntries,
            List.mem_append] at h
          rw [checkEach_of_error hcheck]
          rcases h with hreport | hviolation
          · exact Or.inl (exists_error_of_mem_reports hreport)
          · exact Or.inr ⟨v, rfl, List.mem_singleton.1 hviolation⟩
      | ok t =>
          rw [checkEach_cons_of_ok hcheck, Transcript.diagnostics_append, diagnostics_checkEntries,
            List.mem_append] at h
          rw [checkEach_cons_of_ok hcheck]
          rcases h with hreport | hrest
          · exact Or.inl (exists_error_of_mem_reports hreport)
          · refine (ih hrest).imp_right ?_
            rintro ⟨v, hv, rfl⟩
            exact ⟨v, by rw [hv]; rfl, rfl⟩

/-- Each diagnostic of the second phase is that of a fault. -/
lemma exists_fault_of_mem_checkEach {d : Diagnostic} (h : d ∈ (checkEach o ps).1.diagnostics) :
    ∃ (f : Fault) (level : Level), d = f.diagnostic level := by
  rcases mem_diagnostics_checkEach h with ⟨e, rfl⟩ | ⟨v, -, rfl⟩
  · exact ⟨.typing e, .error, rfl⟩
  · exact ⟨.violation v, .fatal, rfl⟩

/-- The phase ends at the first malformed node of a program. -/
lemma checkEach_single_eq_error_iff {path : String} {p : Program} {v : Violation} :
    (checkEach o [(path, p)]).2 = .error v ↔ Node.FirstViolation p.nodes v := by
  rw [← Log.empty.check_eq_error_iff o]
  cases hcheck : (Log.empty.check o p).2 with
  | error w => simp only [checkEach_of_error hcheck, Except.error.injEq]
  | ok t =>
      rw [checkEach_cons_of_ok hcheck]
      exact ⟨nofun, nofun⟩

lemma violation_mem_checkEach {path : String} {p : Program} {v : Violation}
    (h : Node.FirstViolation p.nodes v) :
    v.diagnostic ∈ (checkEach o [(path, p)]).1.diagnostics := by
  rw [checkEach_of_error ((Log.empty.check_eq_error_iff o p v).2 h),
    Transcript.diagnostics_append]
  exact List.mem_append_right _ (List.mem_singleton_self _)

/-- **Which messages name the line of their diagnostic.**

Let the second phase of a run check any programs, with any options.

* A diagnostic that it emits names the line that it is attributed to, unless it tells of an
  initializer whose target stands on another line than the declared name.
* A diagnostic that tells of the wrong target of an initializer names the line of the declared name,
  and it is attributed to the line of the target.
* So all diagnostics about a program name their lines exactly if the first malformed node of the
  program, should there be one, is not an initializer with its names on different lines. -/
theorem checkEach_names_lines (o : Options) (ps : List (String × Program)) :
    (∀ d ∈ (checkEach o ps).1.diagnostics, d.NamesItsLine ↔ ∀ declared target,
      d.cause = some (.fault (.violation (.initializerTarget declared target))) →
        declared.span.line = target.span.line) ∧
    (∀ d ∈ (checkEach o ps).1.diagnostics, ∀ declared target,
      d.cause = some (.fault (.violation (.initializerTarget declared target))) →
        (∀ line, d.NamesLine line ↔ line = declared.span.line) ∧
          d.line = some target.span.line) ∧
    ∀ path p, (∀ d ∈ (checkEach o [(path, p)]).1.diagnostics, d.NamesItsLine) ↔
      ∀ declared target, Node.FirstViolation p.nodes (.initializerTarget declared target) →
        declared.span.line = target.span.line := by
  refine ⟨fun d hd => ?_, fun d hd declared target hcause => ?_, fun path p => ⟨?_, ?_⟩⟩
  · obtain ⟨f, level, rfl⟩ := exists_fault_of_mem_checkEach hd
    have hcause : (f.diagnostic level).cause = some (.fault f) := rfl
    simp only [Fault.namesItsLine_diagnostic_iff, hcause, Option.some.injEq, Cause.fault.injEq]
  · obtain ⟨f, level, rfl⟩ := exists_fault_of_mem_checkEach hd
    obtain rfl : f = .violation (.initializerTarget declared target) :=
      Cause.fault.inj (Option.some.inj hcause)
    exact ⟨fun line => Fault.namesLine_diagnostic_iff, rfl⟩
  · intro h declared target hfirst
    have hnames := h _ (violation_mem_checkEach hfirst)
    exact Fault.namesItsLine_diagnostic_iff.1 hnames declared target rfl
  · intro h d hd
    rcases mem_diagnostics_checkEach hd with ⟨e, rfl⟩ | ⟨v, hv, rfl⟩
    · exact Fault.namesItsLine_diagnostic_iff.2 nofun
    · refine Fault.namesItsLine_diagnostic_iff.2 fun declared target heq => ?_
      obtain rfl : v = .initializerTarget declared target := Fault.violation.inj heq
      exact h declared target (checkEach_single_eq_error_iff.1 hv)

/-- A program that uses an unknown name on line 3, and has a node with two operators on line 4. -/
def chainedBelow : Program where
  stmts := [
    .print (.term (.name ⟨"x", .ofLine 3⟩)) (.ofLine 2),
    .print (.binary (.term (.int ⟨1, .ofLine 5⟩)) [⟨.add, .ofLine 5⟩, ⟨.add, .ofLine 5⟩]
      (.term (.int ⟨2, .ofLine 6⟩)) (.ofLine 4)) (.ofLine 4)]
  span := .ofLine 1

theorem checkEach_names_lines_chainedBelow :
    (checkEach {} [("main.ron", chainedBelow)]).1.diagnostics =
        [(TypingError.unknownName ⟨"x", .ofLine 3⟩).diagnostic,
          (Violation.operatorChain (.ofLine 4) 2).diagnostic] ∧
      (TypingError.unknownName ⟨"x", .ofLine 3⟩).diagnostic.NamesItsLine ∧
      ∀ d ∈ (checkEach {} [("main.ron", chainedBelow)]).1.diagnostics, d.NamesItsLine := by
  obtain ⟨hone, -, hall⟩ := checkEach_names_lines {} [("main.ron", chainedBelow)]
  have hfirst : Node.FirstViolation chainedBelow.nodes (.operatorChain (.ofLine 4) 2) :=
    (Log.empty.check_eq_error_iff {} chainedBelow _).1 rfl
  refine ⟨rfl, (hone _ List.mem_cons_self).2 nofun, (hall "main.ron" chainedBelow).2 ?_⟩
  intro declared target htarget
  -- There is only one first violation, and it is the chain.
  have hcheck := (Log.empty.check_eq_error_iff {} chainedBelow _).2 htarget
  cases ((Log.empty.check_eq_error_iff {} chainedBelow _).2 hfirst).symm.trans hcheck

/-- A program that declares `a` on line 1, with an initializer for `b` on line 2. -/
def splitDeclaration : Program where
  stmts := [.decl ⟨⟨"a", .ofLine 1⟩, ⟨.int, .ofLine 1⟩,
    some ⟨⟨"b", .ofLine 2⟩, .term (.int ⟨1, .ofLine 2⟩), .ofLine 2⟩, .ofLine 1⟩]
  span := .ofLine 1

/-- The message about it names line 1, and the diagnostic is attributed to line 2. -/
theorem checkEach_splitDeclaration :
    ∃ d ∈ (checkEach {} [("main.ron", splitDeclaration)]).1.diagnostics,
      d.message.text =
        "malformed tree: declaration of `a` at line 1 is initialized by an assignment to `b`" ∧
      d.NamesLine 1 ∧ d.line = some 2 ∧ ¬ d.NamesItsLine := by
  let v := Violation.initializerTarget ⟨"a", .ofLine 1⟩ ⟨"b", .ofLine 2⟩
  have hnames : v.diagnostic.NamesLine 1 := Fault.namesLine_diagnostic_iff.2 rfl
  refine ⟨v.diagnostic, List.mem_cons_self, by decide, hnames, rfl, fun h => ?_⟩
  exact absurd ((h 1).1 hnames) (by decide)

end CommandLine

end ScriptTyping
