/-!
# Numbers of 64 bits

Formats write numbers of any size, and a tree holds numbers of 64 bits.  A number that does not fit
is not cut down to size: it is no number of the tree.

Main statements: `Word.ofNat?_eq_some_iff` and `Word.ofInt?_eq_some_iff` say that a word is found
exactly from its own value.
-/

namespace ScriptTyping.Word

/-- The word with the given value. -/
def ofNat? (n : Nat) : Option UInt64 :=
  if n < UInt64.size then some (.ofNat n) else none

/-- The signed word with the given value. -/
def ofInt? (n : Int) : Option Int64 :=
  if Int64.minValue.toInt ≤ n ∧ n ≤ Int64.maxValue.toInt then some (.ofInt n) else none

/-- A word is found exactly from its value. -/
theorem ofNat?_eq_some_iff {n : Nat} {w : UInt64} : ofNat? n = some w ↔ w.toNat = n := by
  constructor
  · intro h
    unfold ofNat? at h
    split at h
    · next hn =>
      obtain rfl := Option.some.inj h
      exact UInt64.toNat_ofNat_of_lt hn
    · cases h
  · rintro rfl
    simp [ofNat?, w.toNat_lt_size]

/-- A signed word is found exactly from its value. -/
theorem ofInt?_eq_some_iff {n : Int} {w : Int64} : ofInt? n = some w ↔ w.toInt = n := by
  constructor
  · intro h
    unfold ofInt? at h
    split at h
    · next hn =>
      obtain rfl := Option.some.inj h
      exact Int64.toInt_ofInt_of_le hn.1 (Int.lt_of_le_of_lt hn.2 (by decide))
    · cases h
  · rintro rfl
    have hlo := w.minValue_le_toInt
    have hhi := w.toInt_le
    unfold ofInt?
    rw [if_pos ⟨hlo, hhi⟩, Int64.ofInt_toInt]

end ScriptTyping.Word
