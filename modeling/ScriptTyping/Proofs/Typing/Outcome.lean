import Mathlib.Data.List.Basic
import ScriptTyping.Typing.Check

/-!
# Reasoning about the outcome of checking

A `Check` either yields a value or ends at a violation, and reports errors in both cases.  The two
endings are reasoned about apart.

* `Check.Yields c es a` says that `c` reports exactly `es` and yields `a`.  Each primitive has an
  `iff` rule, and `yields_bind_iff` takes a sequence apart into the runs of its two halves, with the
  reports split in the same place.  The rules hold in both directions, so the same lemma builds a
  run and inverts one.
* `Check.violation?` is the violation at which `c` ends, if it does.  `violation?_bind` computes it
  for a sequence whose second half ends the same way whatever value it is given, which is how a
  check that looks at types can be seen not to depend on them.

`exists_yields_iff` joins the two: a run yields something unless it ends at a violation.
-/

namespace ScriptTyping
namespace Check

variable {α β : Type} {c : Check α} {f : α → Check β} {es : List TypingError} {a : α} {b : β}

/-! ## Reports -/

lemma errors_bind_of_ok (h : c.result = .ok a) : (c >>= f).errors = c.errors ++ (f a).errors := by
  rw [bind_of_ok h]
  exact List.filterMap_append

lemma errors_bind_of_error {v : Violation} (h : c.result = .error v) :
    (c >>= f).errors = c.errors := by
  rw [bind_of_error h]
  rfl

lemma result_bind_of_ok (h : c.result = .ok a) : (c >>= f).result = (f a).result := by
  rw [bind_of_ok h]

lemma result_bind_of_error {v : Violation} (h : c.result = .error v) :
    (c >>= f).result = .error v := by
  rw [bind_of_error h]

/-- What a sequence has noted at some moment: a part of what its first half notes, or all of that
and a part of what its second half notes. -/
lemma isPrefix_notes_bind_iff {ns : List Note} : ns <+: (c >>= f).notes ↔
    ns <+: c.notes ∨ ∃ a ms, c.result = .ok a ∧ ms <+: (f a).notes ∧ ns = c.notes ++ ms := by
  cases h : c.result with
  | error v => simp [bind_of_error h]
  | ok a =>
      rw [bind_of_ok h]
      constructor
      · intro hns
        rcases List.prefix_or_prefix_of_prefix hns (List.prefix_append _ _) with hfirst | ⟨ms, rfl⟩
        · exact Or.inl hfirst
        · exact Or.inr ⟨a, ms, rfl, (List.prefix_append_right_inj _).1 hns, rfl⟩
      · rintro (hfirst | ⟨a', ms, ha, hms, rfl⟩)
        · exact hfirst.trans (List.prefix_append _ _)
        · obtain rfl := Except.ok.inj ha
          exact (List.prefix_append_right_inj _).2 hms

/-! ## Runs that yield a value -/

/-- The computation reports exactly the errors `es`, in this order, and yields `a`. -/
def Yields (c : Check α) (es : List TypingError) (a : α) : Prop :=
  c.errors = es ∧ c.result = .ok a

lemma yields_pure_iff {a' : α} : (pure a : Check α).Yields es a' ↔ es = [] ∧ a' = a := by
  simp [Yields, errors, eq_comm]

lemma yields_trace_iff {e : Event} {u : Unit} : (trace e).Yields es u ↔ es = [] := by
  constructor
  · rintro ⟨rfl, -⟩
    rfl
  · rintro rfl
    exact ⟨rfl, rfl⟩

lemma yields_report_iff {e : TypingError} {u : Unit} : (report e).Yields es u ↔ es = [e] := by
  constructor
  · rintro ⟨rfl, -⟩
    rfl
  · rintro rfl
    exact ⟨rfl, rfl⟩

lemma not_yields_violate {v : Violation} : ¬ (violate v : Check α).Yields es a := by
  simp [Yields, violate]

/-- A sequence yields a value if its first half does and then its second half does, and it reports
what both report. -/
lemma yields_bind_iff : (c >>= f).Yields es b ↔
    ∃ es₁ a es₂, c.Yields es₁ a ∧ (f a).Yields es₂ b ∧ es = es₁ ++ es₂ := by
  cases h : c.result with
  | error v => simp [Yields, result_bind_of_error h, h]
  | ok a =>
      rw [Yields, errors_bind_of_ok h, result_bind_of_ok h]
      constructor
      · rintro ⟨rfl, hb⟩
        exact ⟨_, a, _, ⟨rfl, h⟩, ⟨rfl, hb⟩, rfl⟩
      · rintro ⟨es₁, a', es₂, ⟨rfl, ha⟩, ⟨rfl, hb⟩, rfl⟩
        obtain rfl : a = a' := Except.ok.inj (h.symm.trans ha)
        exact ⟨rfl, hb⟩

lemma yields_map_iff {g : α → β} : (g <$> c).Yields es b ↔ ∃ a, c.Yields es a ∧ b = g a := by
  rw [map_eq_pure_bind, yields_bind_iff]
  simp [yields_pure_iff]

/-! ## Runs that end at a violation -/

/-- The violation at which a computation ends, if it does. -/
def violation? (c : Check α) : Option Violation :=
  match c.result with
  | .ok _ => none
  | .error v => some v

@[simp] lemma violation?_pure : (pure a : Check α).violation? = none := rfl

@[simp] lemma violation?_trace {e : Event} : (trace e).violation? = none := rfl

@[simp] lemma violation?_report {e : TypingError} : (report e).violation? = none := rfl

@[simp] lemma violation?_violate {v : Violation} : (violate v : Check α).violation? = some v := rfl

/-- If the second half ends the same way on every value, a sequence ends where its first half does,
and otherwise where its second half does. -/
lemma violation?_bind {w : Option Violation} (hf : ∀ a, (f a).violation? = w) :
    (c >>= f).violation? = c.violation?.or w := by
  cases h : c.result with
  | error v => simp [violation?, result_bind_of_error h, h]
  | ok a =>
      rw [← hf a]
      simp [violation?, result_bind_of_ok h, h]

lemma result_eq_error_iff {v : Violation} : c.result = .error v ↔ c.violation? = some v := by
  cases h : c.result <;> simp [violation?, h]

lemma exists_yields_iff : (∃ es a, c.Yields es a) ↔ c.violation? = none := by
  cases h : c.result <;> simp [Yields, violation?, h]

end Check
end ScriptTyping
