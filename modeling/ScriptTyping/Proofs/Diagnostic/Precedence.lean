import ScriptTyping.Proofs.Diagnostic.Listening

/-!
# Which step of a draft prevails

What a draft comes to is known from the list of its steps (`Draft.finish?_ofSteps`).  This file says
what that means for a log to which the draft is emitted: which diagnostic is its new last entry, and
when it gets none.

Main statement: `Log.emit?_by_precedence`.
-/

namespace ScriptTyping

namespace Log

variable {l : Log} {level : Level} {steps : List Draft.Step} {d : Diagnostic}

/-- A log takes a draft that can be finished, and gets one entry more. -/
lemma emit?_of_finish? (h : (Draft.ofSteps level steps).finish? = some d) :
    l.emit? (.ofSteps level steps) = some (l.add d) ∧
      (l.perform (.emit level steps)).entries = l.entries ++ [d] := by
  constructor
  · rw [emit?, h, Option.map_some]
  · rw [entries_perform, Operation.added, h, Option.toList_some]

end Log

/-- **Which step prevails.**

Let a diagnostic of any level be put together in any steps and emitted to any log.

* If some step states a message, the log gets one entry.  It has the text and the place of the last
  such step, wherever faults stand among the steps.
* If none does, but some step brings a fault, the log gets one entry.  It has the text and the place
  of the first fault.
* If there is neither, the draft is refused, and the log stays as it was.
* The cause of the entry is the last one that a step brings, if any.
* Steps that agree in these respects come to the same. -/
theorem Log.emit?_by_precedence (l : Log) (level : Level) (steps : List Draft.Step) :
    (∀ m, Draft.lastMessage steps = some m →
      l.emit? (.ofSteps level steps) = some (l.add ⟨level, m, Draft.lastCause steps⟩) ∧
      (l.perform (.emit level steps)).entries =
        l.entries ++ [⟨level, m, Draft.lastCause steps⟩]) ∧
    (Draft.lastMessage steps = none → ∀ f, Draft.firstFault steps = some f →
      l.emit? (.ofSteps level steps) =
        some (l.add ⟨level, ⟨some f.span, f.message⟩, Draft.lastCause steps⟩) ∧
      (l.perform (.emit level steps)).entries =
        l.entries ++ [⟨level, ⟨some f.span, f.message⟩, Draft.lastCause steps⟩]) ∧
    (Draft.lastMessage steps = none → Draft.firstFault steps = none →
      l.emit? (.ofSteps level steps) = none ∧ l.perform (.emit level steps) = l) ∧
    (∀ steps', Draft.lastMessage steps' = Draft.lastMessage steps →
      (Draft.lastMessage steps = none → Draft.firstFault steps' = Draft.firstFault steps) →
      Draft.lastCause steps' = Draft.lastCause steps →
      l.emit? (.ofSteps level steps') = l.emit? (.ofSteps level steps)) := by
  refine ⟨fun m hm => emit?_of_finish? ?_, fun hm f hf => emit?_of_finish? ?_, fun hm hf => ?_,
    fun steps' hm hf hc => ?_⟩
  · rw [Draft.finish?_ofSteps, hm]
    rfl
  · rw [Draft.finish?_ofSteps, hm, hf]
    rfl
  · have hrefused : l.emit? (.ofSteps level steps) = none := by
      rw [emit?, Draft.finish?_ofSteps, hm, hf]
      rfl
    refine ⟨hrefused, ?_⟩
    rw [perform, hrefused]
    rfl
  · rw [emit?, emit?, Draft.finish?_ofSteps, Draft.finish?_ofSteps, hm, hc]
    cases hlast : Draft.lastMessage steps with
    | some m => rfl
    | none => rw [hf hlast]

/-- Two faults, at different lines. -/
def twoFaults : Fault × Fault :=
  (.typing (.unknownName ⟨"x", .ofLine 3⟩), .violation (.operatorChain (.ofLine 8) 2))

theorem Log.emit?_mixed_steps :
    empty.emit? (.ofSteps .warn [.fault twoFaults.1, .message ⟨none, "first"⟩,
        .message ⟨some (.ofLine 5), "last"⟩, .cause (.text "early"), .fault twoFaults.2]) =
      some { entries := [⟨.warn, ⟨some (.ofLine 5), "last"⟩, some (.fault twoFaults.2)⟩] } ∧
    empty.emit? (.ofSteps .info [.cause (.text "early"), .fault twoFaults.1, .fault twoFaults.2,
        .cause (.text "late")]) =
      some { entries := [⟨.info, ⟨some (.ofLine 3), "Unknown identifier: x at line 3"⟩,
        some (.text "late")⟩] } ∧
    empty.emit? (.ofSteps .error [.cause (.text "early")]) = none ∧
    empty.perform (.emit .error [.cause (.text "early")]) = empty ∧
    empty.emit? (.ofSteps .fatal [.fault twoFaults.1, .message ⟨none, "a"⟩, .fault twoFaults.2]) =
      empty.emit? (.ofSteps .fatal [.message ⟨none, "a"⟩, .fault twoFaults.2]) := by
  have hrefused := (emit?_by_precedence empty .error [.cause (.text "early")]).2.2.1 rfl rfl
  exact ⟨((emit?_by_precedence empty .warn _).1 _ rfl).1,
    ((emit?_by_precedence empty .info _).2.1 rfl twoFaults.1 rfl).1, hrefused.1, hrefused.2,
    (emit?_by_precedence empty .fatal _).2.2.2 _ rfl nofun rfl⟩

end ScriptTyping
