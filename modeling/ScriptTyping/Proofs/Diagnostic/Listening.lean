import ScriptTyping.Proofs.Diagnostic.Drafts
import ScriptTyping.Proofs.Typing.Rules

/-!
# Who hears what

A log is written to in three ways: drafts are emitted, programs are checked, and listeners are
installed.  Whatever is done to it, and in whatever order, the log only grows, and each listener
hears the part of it that is added between its own installation and the next one.

* `Log.Operation.added` is what an operation adds to a log, and `Log.perform_of_ne` says that
  nothing else happens unless a listener is installed.  A draft that is refused adds nothing.
* `Log.Attended l ns` is the invariant, about a log and the sizes that it had when its listeners
  were installed.  Adding diagnostics keeps it (`Attended.addAll`), and so does an installation,
  which puts the size of the log at the end of `ns` (`Attended.listen`).
* `Log.Attended.performAll` carries it through a run.
-/

namespace ScriptTyping

lemma Level.isError_iff {level : Level} :
    level.isError = true ↔ level = .fatal ∨ level = .error := by
  cases level <;> decide

namespace Log

/-! ## Operations -/

/-- Something that is done to a log. -/
inductive Operation where
  /-- A diagnostic of the given level is put together in the given steps and emitted. -/
  | emit (level : Level) (steps : List Draft.Step)
  /-- A program is checked, whatever comes of it. -/
  | check (o : Options) (p : Program)
  /-- A listener is installed. -/
  | listen

/-- The diagnostics that an operation adds to a log. They do not depend on the log. -/
def Operation.added : Operation → List Diagnostic
  | emit level steps => (Draft.ofSteps level steps).finish?.toList
  | check o p => (p.check o).errors.map TypingError.diagnostic
  | listen => []

/-- The log after an operation. A draft that is refused leaves it as it was. -/
def perform (l : Log) : Operation → Log
  | .emit level steps => (l.emit? (.ofSteps level steps)).getD l
  | .check o p => (l.check o p).1
  | .listen => l.listen

/-- The log after some operations, one after another. -/
def performAll (l : Log) (ops : List Operation) : Log := ops.foldl perform l

/-- The sizes of the log at the moments when listeners are installed, in order. -/
def installations (l : Log) : List Operation → List Nat
  | [] => []
  | .listen :: ops => l.size :: l.listen.installations ops
  | op :: ops => (l.perform op).installations ops

/-- What the listener with the given number heard, in order. -/
def heardBy (l : Log) (i : Nat) : List Diagnostic :=
  l.heard.filterMap fun h => if h.1 = i then some h.2 else none

variable {l : Log} {op : Operation} {ops : List Operation} {ds : List Diagnostic} {ns : List Nat}

lemma performAll_append {ops' : List Operation} :
    l.performAll (ops ++ ops') = (l.performAll ops).performAll ops' :=
  List.foldl_append

/-- **What an operation can do.** It installs a listener, or it adds diagnostics. -/
lemma perform_of_ne (h : op ≠ .listen) : l.perform op = l.addAll op.added := by
  cases op with
  | listen => exact absurd rfl h
  | check o p => rfl
  | emit level steps =>
      cases hd : (Draft.ofSteps level steps).finish? <;>
        simp [perform, emit?, addAll, Operation.added, hd]

lemma installations_of_ne (h : op ≠ .listen) :
    l.installations (op :: ops) = (l.perform op).installations ops := by
  cases op with
  | listen => exact absurd rfl h
  | emit level steps => rfl
  | check o p => rfl

lemma listeners_addAll (l : Log) (ds : List Diagnostic) :
    (l.addAll ds).listeners = l.listeners := by
  induction ds generalizing l with
  | nil => rfl
  | cons d ds ih => exact ih (l.add d)

/-- The listener in effect hears what is added, in order, and nobody else hears anything. -/
lemma heard_addAll (l : Log) (ds : List Diagnostic) :
    (l.addAll ds).heard =
      l.heard ++ if l.listeners = 0 then [] else ds.map ((l.listeners, ·)) := by
  induction ds generalizing l with
  | nil => simp [addAll]
  | cons d ds ih =>
      have hadd : (l.add d).heard =
          l.heard ++ if l.listeners = 0 then [] else [(l.listeners, d)] := by
        by_cases h : l.listeners = 0 <;> simp [add, h]
      have hlisteners : (l.add d).listeners = l.listeners := rfl
      have hrest : (l.addAll (d :: ds)).heard = ((l.add d).addAll ds).heard := rfl
      rw [hrest, ih, hadd, hlisteners]
      by_cases h : l.listeners = 0 <;> simp [h]

/-! ## Growth -/

lemma entries_perform (l : Log) (op : Operation) :
    (l.perform op).entries = l.entries ++ op.added := by
  by_cases h : op = .listen
  · subst h
    exact (List.append_nil _).symm
  · rw [perform_of_ne h, entries_addAll]

lemma entries_performAll (l : Log) (ops : List Operation) :
    (l.performAll ops).entries = l.entries ++ ops.flatMap Operation.added := by
  induction ops generalizing l with
  | nil => exact (List.append_nil _).symm
  | cons op ops ih =>
      have hrest : l.performAll (op :: ops) = (l.perform op).performAll ops := rfl
      rw [hrest, ih, entries_perform, List.flatMap_cons, List.append_assoc]

lemma hasErrors_iff :
    l.hasErrors = true ↔ ∃ d ∈ l.entries, d.level = .fatal ∨ d.level = .error := by
  simp only [hasErrors, List.any_eq_true, Level.isError_iff]

lemma hasErrors_of_isPrefix {l' : Log} (h : l.entries <+: l'.entries)
    (herrors : l.hasErrors = true) : l'.hasErrors = true := by
  obtain ⟨d, hd, hlevel⟩ := hasErrors_iff.1 herrors
  exact hasErrors_iff.2 ⟨d, h.subset hd, hlevel⟩

/-! ## Segments -/

/-- The log has a listener for each size in `ns`, installed when the log had that size.  Each of
them heard the entries from there on, up to the size at which the next one was installed. -/
structure Attended (l : Log) (ns : List Nat) : Prop where
  listeners : l.listeners = ns.length
  bounded : ∀ n ∈ ns, n ≤ l.size
  sorted : ns.Pairwise (· ≤ ·)
  segment : ∀ i n, ns[i]? = some n →
    l.heardBy (i + 1) = (l.entries.take (ns[i + 1]?.getD l.size)).drop n
  nobodyElse : ∀ h ∈ l.heard, 1 ≤ h.1 ∧ h.1 ≤ ns.length
  inOrder : l.heard.map Prod.snd = l.entries.drop (ns[0]?.getD l.size)

lemma attended_empty : empty.Attended [] where
  listeners := rfl
  bounded := nofun
  sorted := .nil
  segment := nofun
  nobodyElse := nofun
  inOrder := rfl

lemma size_addAll (l : Log) (ds : List Diagnostic) : (l.addAll ds).size = l.size + ds.length := by
  rw [size, entries_addAll, List.length_append, size]

lemma heardBy_addAll (l : Log) (ds : List Diagnostic) (i : Nat) :
    (l.addAll ds).heardBy (i + 1) =
      l.heardBy (i + 1) ++ if l.listeners = i + 1 then ds else [] := by
  rw [heardBy, heard_addAll, List.filterMap_append, heardBy]
  congr 1
  by_cases h : l.listeners = i + 1
  · simp [h]
  · by_cases hzero : l.listeners = 0 <;> simp [h, hzero]

/-- Adding diagnostics makes the last segment longer and leaves the others alone. -/
lemma Attended.addAll (h : l.Attended ns) (ds : List Diagnostic) : (l.addAll ds).Attended ns where
  listeners := (l.listeners_addAll ds).trans h.listeners
  bounded n hn := by
    rw [size_addAll]
    exact Nat.le_trans (h.bounded n hn) (Nat.le_add_right _ _)
  sorted := h.sorted
  segment i n hi := by
    have hn : n ≤ l.entries.length := h.bounded n (List.mem_of_getElem? hi)
    have hlt : i < ns.length := (List.getElem?_eq_some_iff.1 hi).1
    rw [heardBy_addAll, h.segment i n hi, entries_addAll, h.listeners, size_addAll]
    by_cases hlast : ns.length = i + 1
    · have hnone : ns[i + 1]? = none := List.getElem?_eq_none (Nat.le_of_eq hlast)
      rw [if_pos hlast, hnone, Option.getD_none, Option.getD_none, size, List.take_length,
        ← List.length_append, List.take_length, List.drop_append_of_le_length hn]
    · have hnext : i + 1 < ns.length := by omega
      have hm : ns[i + 1] ≤ l.entries.length := h.bounded _ (List.getElem_mem hnext)
      rw [if_neg hlast, List.getElem?_eq_getElem hnext, Option.getD_some, Option.getD_some,
        List.take_append_of_le_length hm, List.append_nil]
  nobodyElse p hp := by
    rw [heard_addAll, List.mem_append] at hp
    rcases hp with hold | hnew
    · exact h.nobodyElse p hold
    · by_cases hzero : l.listeners = 0
      · simp [hzero] at hnew
      · rw [if_neg hzero, List.mem_map] at hnew
        obtain ⟨d, -, rfl⟩ := hnew
        exact ⟨Nat.one_le_iff_ne_zero.2 hzero, Nat.le_of_eq h.listeners⟩
  inOrder := by
    rw [heard_addAll, List.map_append, h.inOrder, entries_addAll, size_addAll]
    cases ns with
    | nil =>
        have hzero : l.listeners = 0 := h.listeners
        simp [hzero, size]
    | cons n ns =>
        have hpos : l.listeners ≠ 0 := by
          rw [h.listeners]
          exact Nat.succ_ne_zero _
        have hn : n ≤ l.entries.length := h.bounded n List.mem_cons_self
        rw [if_neg hpos, List.map_map, List.getElem?_cons_zero, Option.getD_some,
          Option.getD_some, List.drop_append_of_le_length hn]
        exact congrArg _ (List.map_id ds)

lemma heardBy_eq_nil (h : l.Attended ns) {i : Nat} (hi : i = 0 ∨ ns.length < i) :
    l.heardBy i = [] := by
  rw [heardBy, List.filterMap_eq_nil_iff]
  intro p hp
  have hp' := h.nobodyElse p hp
  exact if_neg (by omega)

/-- A new listener ends the last segment and begins an empty one. -/
lemma Attended.listen (h : l.Attended ns) : l.listen.Attended (ns ++ [l.size]) where
  listeners := by
    rw [List.length_append, ← h.listeners]
    rfl
  bounded n hn := by
    rcases List.mem_append.1 hn with hold | hnew
    · exact h.bounded n hold
    · exact Nat.le_of_eq (List.mem_singleton.1 hnew)
  sorted := by
    rw [List.pairwise_append]
    refine ⟨h.sorted, List.pairwise_singleton _ _, fun m hm n hn => ?_⟩
    rw [List.mem_singleton.1 hn]
    exact h.bounded m hm
  segment i n hi := by
    have hsame : l.listen.heardBy (i + 1) = l.heardBy (i + 1) := rfl
    rw [hsame]
    rcases Nat.lt_trichotomy i ns.length with hlt | rfl | hgt
    · rw [List.getElem?_append_left hlt] at hi
      rw [h.segment i n hi]
      -- If the listener was the last one, its segment now ends where it ended anyway.
      rcases Nat.lt_or_eq_of_le (Nat.succ_le_of_lt hlt) with hnext | hlast
      · rw [List.getElem?_append_left hnext]
        rfl
      · have hlast' : i + 1 = ns.length := hlast
        rw [hlast', List.getElem?_append_right (Nat.le_refl _), Nat.sub_self,
          List.getElem?_eq_none (Nat.le_refl _)]
        rfl
    · rw [List.getElem?_append_right (Nat.le_refl _), Nat.sub_self, List.getElem?_cons_zero] at hi
      obtain rfl := Option.some.inj hi
      rw [heardBy_eq_nil h (.inr (Nat.lt_succ_self _))]
      symm
      rw [List.drop_eq_nil_iff]
      exact List.length_take_le' _ _
    · rw [List.getElem?_eq_none (by rw [List.length_append]; exact hgt)] at hi
      cases hi
  nobodyElse p hp := by
    have hp' := h.nobodyElse p hp
    rw [List.length_append]
    exact ⟨hp'.1, Nat.le_trans hp'.2 (Nat.le_add_right _ _)⟩
  inOrder := by
    have hsame : l.listen.heard = l.heard := rfl
    rw [hsame, h.inOrder]
    cases ns with
    | nil => rfl
    | cons n ns => rfl

/-- **Every run keeps the segments.** -/
lemma Attended.performAll (h : l.Attended ns) (ops : List Operation) :
    (l.performAll ops).Attended (ns ++ l.installations ops) := by
  induction ops generalizing l ns with
  | nil =>
      rw [installations, List.append_nil]
      exact h
  | cons op ops ih =>
      by_cases hop : op = .listen
      · subst hop
        have hrest := ih h.listen
        rw [List.append_assoc] at hrest
        exact hrest
      · have hrest := ih (h.addAll op.added)
        rw [← perform_of_ne hop] at hrest
        rw [installations_of_ne hop]
        exact hrest

/-- A draft without a message is refused, and nothing comes of it. -/
lemma perform_emit_of_causes {level : Level} {steps : List Draft.Step}
    (h : ∀ s ∈ steps, ∃ c, s = .cause c) : l.perform (.emit level steps) = l := by
  rw [perform, emit?, Draft.finish?_ofSteps_eq_none_iff.2 h]
  rfl

end Log

/-- **The log only grows, and each listener hears its own segment of it.**

Let any operations be done to a new log, one after another.

* An operation adds to the log and changes nothing that is there.  What it adds depends on the
  operation alone.
* Listeners are installed when the log has certain sizes, which ascend.  Each listener heard the
  entries from its own size up to that of the next listener, or to the end, in the order of the log.
  Nobody else heard anything, and what was logged before the first installation was heard by nobody.
* A draft is refused exactly if no step brought a message.  To have tried to emit it makes no
  difference, to the log and to what was heard, now and later.
* The log has errors exactly if one of its entries is fatal or an error, and then it keeps them. -/
theorem Log.performAll_heard_in_segments (ops later : List Operation) :
    (∀ op, (empty.performAll (ops ++ [op])).entries =
      (empty.performAll ops).entries ++ op.added) ∧
    (empty.performAll ops).Attended (empty.installations ops) ∧
    (∀ level steps,
      ((empty.performAll ops).emit? (.ofSteps level steps) = none ↔
        ∀ s ∈ steps, ∃ c, s = .cause c) ∧
      ((∀ s ∈ steps, ∃ c, s = .cause c) →
        empty.performAll (ops ++ .emit level steps :: later) = empty.performAll (ops ++ later))) ∧
    ((empty.performAll ops).hasErrors = true ↔
      ∃ d ∈ (empty.performAll ops).entries, d.level = .fatal ∨ d.level = .error) ∧
    ((empty.performAll ops).hasErrors = true →
      (empty.performAll (ops ++ later)).hasErrors = true) := by
  refine ⟨fun op => ?_, attended_empty.performAll ops, fun level steps => ⟨?_, fun h => ?_⟩,
    hasErrors_iff, fun h => ?_⟩
  · rw [performAll_append]
    exact entries_perform _ op
  · rw [emit?, Option.map_eq_none_iff, Draft.finish?_ofSteps_eq_none_iff]
  · have hemit : ∀ l : Log, l.performAll (.emit level steps :: later) = l.performAll later :=
      fun l => congrArg (·.performAll later) (perform_emit_of_causes h)
    rw [performAll_append, performAll_append, hemit]
  · refine hasErrors_of_isPrefix ?_ h
    rw [performAll_append, entries_performAll _ later]
    exact List.prefix_append _ _

/-- Operations on a log: one listener is there while a program that uses an unknown name is checked
and while a draft without a message is tried, and another one takes its place. -/
def overheard : List Log.Operation := [
  .emit .info [.message ⟨none, "begin"⟩],
  .listen,
  .check {} ⟨[.print (.term (.name ⟨"x", .ofLine 1⟩)) (.ofLine 1)], .ofLine 1⟩,
  .emit .error [.cause (.text "lost")],
  .listen,
  .emit .warn [.cause (.text "late"), .message ⟨none, "end"⟩]]

theorem Log.performAll_overheard :
    empty.installations overheard = [1, 2] ∧
      (empty.performAll overheard).heardBy 1 =
        [(TypingError.unknownName ⟨"x", .ofLine 1⟩).diagnostic] ∧
      (empty.performAll overheard).heardBy 2 = [⟨.warn, ⟨none, "end"⟩, some (.text "late")⟩] ∧
      empty.performAll overheard =
        empty.performAll (overheard.take 3 ++ overheard.drop 4) ∧
      (empty.performAll (overheard.take 3)).hasErrors = true ∧
      (empty.performAll overheard).hasErrors = true := by
  have hattended := (Log.performAll_heard_in_segments overheard []).2.1
  have hrefused := (Log.performAll_heard_in_segments (overheard.take 3) (overheard.drop 4)).2.2.1
  have hkept := (Log.performAll_heard_in_segments (overheard.take 3) (overheard.drop 3)).2.2.2.2
  have herrors : (empty.performAll (overheard.take 3)).hasErrors = true := rfl
  refine ⟨rfl, hattended.segment 0 1 rfl, hattended.segment 1 2 rfl, ?_, herrors, hkept herrors⟩
  exact (hrefused .error [.cause (.text "lost")]).2 fun s hs => ⟨_, List.mem_singleton.1 hs⟩

end ScriptTyping
