import Mathlib.Tactic.Lemma
import ScriptTyping.Diagnostic.Basic

/-!
# What drafts come to

A diagnostic is put together in steps of three kinds, and they do not treat what is there alike: a
message step replaces the message, a fault step fills it in only if there is none, and both fault
steps and cause steps replace the cause.  What comes out can nevertheless be told from the list of
steps without running through it:

* the message is the last one that a message step states, and only if there is no such step, it is
  that of the first fault;
* the cause is the last one that any step brings.

`Draft.message_foldl` and `Draft.cause_foldl` say so of a draft in any state.  A message that the
draft has already stands between the two parts of the rule: later message steps come before it, and
faults after it.  All else about drafts follows from these two, first of all which of them are
refused (`Draft.finish?_ofSteps_eq_none_iff`).
-/

namespace ScriptTyping

/-- The message of a fault that is told without a message of its own. -/
def Fault.ownMessage (f : Fault) : Message := ⟨some f.span, f.message⟩

namespace Draft

namespace Step

/-- The message that a message step states. -/
def message? : Step → Option Message
  | message m => some m
  | cause _ | fault _ => none

/-- The fault that a fault step brings. -/
def fault? : Step → Option Fault
  | fault f => some f
  | message _ | cause _ => none

/-- The cause that a step brings, which may be a fault. -/
def cause? : Step → Option Cause
  | cause c => some c
  | fault f => some (.fault f)
  | message _ => none

/-- Only a cause step brings neither a message nor a fault. -/
lemma exists_cause_iff {s : Step} : (∃ c, s = .cause c) ↔ s.message? = none ∧ s.fault? = none := by
  cases s <;> simp [message?, fault?]

end Step

/-- The message of the last message step. -/
def lastMessage (steps : List Step) : Option Message := steps.reverse.findSome? Step.message?

/-- The fault of the first fault step. -/
def firstFault (steps : List Step) : Option Fault := steps.findSome? Step.fault?

/-- The cause of the last step that brings one. -/
def lastCause (steps : List Step) : Option Cause := steps.reverse.findSome? Step.cause?

variable {d : Draft} {s : Step} {steps : List Step} {level : Level}

/-! ## One step -/

lemma lastMessage_cons : lastMessage (s :: steps) = (lastMessage steps).or s.message? := by
  rw [lastMessage, List.reverse_cons, List.findSome?_append, List.findSome?_singleton, lastMessage]

lemma firstFault_cons : firstFault (s :: steps) = s.fault?.or (firstFault steps) := by
  rw [firstFault, ← List.singleton_append, List.findSome?_append, List.findSome?_singleton,
    firstFault]

lemma lastCause_cons : lastCause (s :: steps) = (lastCause steps).or s.cause? := by
  rw [lastCause, List.reverse_cons, List.findSome?_append, List.findSome?_singleton, lastCause]

/-- A step states the message, or leaves it, or fills it in. -/
lemma message_step :
    (d.step s).message = s.message?.or (d.message.or (s.fault?.map Fault.ownMessage)) := by
  cases s with
  | message m => rfl
  | cause c => exact Option.or_none.symm
  | fault f => rfl

lemma cause_step : (d.step s).cause = s.cause?.or d.cause := by
  cases s <;> rfl

lemma level_step : (d.step s).level = d.level := by
  cases s <;> rfl

/-! ## All steps -/

/-- **Where the message comes from.** -/
lemma message_foldl :
    (steps.foldl step d).message =
      (lastMessage steps).or (d.message.or ((firstFault steps).map Fault.ownMessage)) := by
  induction steps generalizing d with
  | nil => exact Option.or_none.symm
  | cons s steps ih =>
      rw [List.foldl_cons, ih, message_step, lastMessage_cons, firstFault_cons, Option.map_or]
      simp only [Option.or_assoc]

/-- **Where the cause comes from.** -/
lemma cause_foldl : (steps.foldl step d).cause = (lastCause steps).or d.cause := by
  induction steps generalizing d with
  | nil => rfl
  | cons s steps ih => rw [List.foldl_cons, ih, cause_step, lastCause_cons, Option.or_assoc]

lemma level_foldl : (steps.foldl step d).level = d.level := by
  induction steps generalizing d with
  | nil => rfl
  | cons s steps ih => rw [List.foldl_cons, ih, level_step]

/-- The diagnostic that steps lead to, told from the list of steps. -/
lemma finish?_ofSteps :
    (ofSteps level steps).finish? =
      ((lastMessage steps).or ((firstFault steps).map Fault.ownMessage)).map
        fun m => ⟨level, m, lastCause steps⟩ := by
  rw [finish?, ofSteps, message_foldl, cause_foldl, level_foldl, Option.none_or, Option.or_none]

/-- A draft is refused if none of its steps brings a message or a fault. -/
lemma finish?_ofSteps_eq_none_iff :
    (ofSteps level steps).finish? = none ↔ ∀ s ∈ steps, ∃ c, s = .cause c := by
  rw [finish?_ofSteps, Option.map_eq_none_iff, Option.or_eq_none_iff, Option.map_eq_none_iff,
    lastMessage, firstFault, List.findSome?_eq_none_iff, List.findSome?_eq_none_iff]
  simp only [List.mem_reverse, Step.exists_cause_iff, forall_and]

end Draft

end ScriptTyping
