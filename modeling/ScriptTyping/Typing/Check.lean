import ScriptTyping.Typing.Event

/-!
# The outcome of checking

Checking a part of a program yields a value or ends at a violation, and in either case leaves the
notes taken on the way: trace events and reported errors, in the order in which they arose.
`Check` is that pair.  It is a monad: notes accumulate, and a violation cuts off what would follow.

Nothing in `Check` can see the notes taken before, so a run does not depend on what was reported
earlier.
-/

namespace ScriptTyping

/-- One thing that a run leaves behind. -/
inductive Note where
  | event (e : Event)
  | error (e : TypingError)
deriving DecidableEq

/-- The reported error, if the note is one. -/
def Note.error? : Note → Option TypingError
  | .error e => some e
  | .event _ => none

/-- The trace event, if the note is one. -/
def Note.event? : Note → Option Event
  | .event e => some e
  | .error _ => none

/-- The notes of a computation and its result. -/
@[ext]
structure Check (α : Type) where
  notes : List Note
  result : Except Violation α

namespace Check

variable {α β γ : Type}

/-- The errors reported, in order. -/
def errors (c : Check α) : List TypingError := c.notes.filterMap Note.error?

/-- The trace, in order. -/
def events (c : Check α) : List Event := c.notes.filterMap Note.event?

/-- Yields a value and leaves no note. -/
protected def pure (a : α) : Check α := ⟨[], .ok a⟩

/-- Runs `f` on the value of `c`, if there is one, and puts the notes of both in order. -/
protected def bind (c : Check α) (f : α → Check β) : Check β :=
  match c.result with
  | .ok a =>
    let d := f a
    ⟨c.notes ++ d.notes, d.result⟩
  | .error v => ⟨c.notes, .error v⟩

instance : Monad Check where
  pure := Check.pure
  bind := Check.bind

@[simp]
theorem notes_pure (a : α) : (pure a : Check α).notes = [] := rfl

@[simp]
theorem result_pure (a : α) : (pure a : Check α).result = .ok a := rfl

theorem bind_of_ok {c : Check α} {a : α} (h : c.result = .ok a) (f : α → Check β) :
    c >>= f = ⟨c.notes ++ (f a).notes, (f a).result⟩ := by
  change Check.bind c f = _
  simp only [Check.bind, h]

theorem bind_of_error {c : Check α} {v : Violation} (h : c.result = .error v) (f : α → Check β) :
    c >>= f = ⟨c.notes, .error v⟩ := by
  change Check.bind c f = _
  simp only [Check.bind, h]

private theorem map_id_eq (c : Check α) : id <$> c = c := by
  change Check.bind c (fun a => Check.pure (id a)) = c
  cases h : c.result with
  | ok a => ext1 <;> simp [Check.bind, Check.pure, h]
  | error v => ext1 <;> simp [Check.bind, h]

private theorem bind_assoc_eq (c : Check α) (f : α → Check β) (g : β → Check γ) :
    c >>= f >>= g = c >>= fun a => f a >>= g := by
  cases h : c.result with
  | error v => rw [bind_of_error h, bind_of_error h, bind_of_error rfl]
  | ok a =>
      rw [bind_of_ok h, bind_of_ok h]
      cases k : (f a).result with
      | error v => rw [bind_of_error k, bind_of_error rfl]
      | ok b => rw [bind_of_ok k, bind_of_ok rfl, List.append_assoc]

instance : LawfulMonad Check :=
  LawfulMonad.mk' Check map_id_eq (fun a f => by rw [bind_of_ok (result_pure a)]; simp)
    bind_assoc_eq

/-- Leaves an event in the trace. -/
def trace (e : Event) : Check Unit := ⟨[.event e], .ok ()⟩

/-- Reports an error and says so in the trace first. -/
def report (e : TypingError) : Check Unit := ⟨[.event (.reporting e), .error e], .ok ()⟩

/-- Ends the run. -/
def violate (v : Violation) : Check α := ⟨[], .error v⟩

end Check

end ScriptTyping
