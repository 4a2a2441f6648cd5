import Mathlib.Data.Finset.Card
import Mathlib.Data.List.Perm.Subperm
import ScriptTyping.Proofs.Symbols

/-!
# Tables built by sequences of calls

A table is built by calls that each ask to bind a name, and of the calls with one name only the
first has an effect.  So all that a table can be asked is answered by the list of calls:
`List.lookup` finds the first call with a name, and `List.eraseDups` keeps a name where it comes
first.

* `find?_bindAll` and `names_bindAll` are the two laws of a sequence, about what a table says and
  about its order.  Both are proved for a sequence that starts from any table.
* `filterMap_names` recovers the entries of a table, and its names of known type, from these two.
* `sameBindings_iff` says that tables are compared by what they say, because a table has no name
  twice: two tables that say the same have the same entries up to their order.
-/

namespace ScriptTyping
namespace SymbolTable

variable {t u : SymbolTable} {x y : String} {b : Binding} {calls : List (String × Binding)}

/-- The table after calls that bind names, one after another. -/
def bindAll (t : SymbolTable) (calls : List (String × Binding)) : SymbolTable :=
  calls.foldl (fun t c => t.bind c.1 c.2) t

/-! ## What a table says -/

lemma find?_bind : (t.bind x b).find? y = (t.find? y).or (if y = x then some b else none) := by
  by_cases h : x ∈ t.names
  · rw [bind_of_mem h]
    by_cases hy : y = x
    · subst hy
      obtain ⟨b', hb'⟩ := Option.ne_none_iff_exists'.1 fun hnone => find?_eq_none_iff.1 hnone h
      rw [hb', Option.some_or]
    · rw [if_neg hy, Option.or_none]
  · exact find?_bind_of_notMem h

/-- **The first call with a name wins**, unless the name was bound before. -/
lemma find?_bindAll : (t.bindAll calls).find? x = (t.find? x).or (calls.lookup x) := by
  induction calls generalizing t with
  | nil => exact Option.or_none.symm
  | cons c calls ih =>
      have hcons : t.bindAll (c :: calls) = (t.bind c.1 c.2).bindAll calls := rfl
      rw [hcons, ih, find?_bind, Option.or_assoc, List.lookup_cons]
      by_cases hx : x = c.1
      · simp [hx]
      · simp [hx, beq_false_of_ne hx]

/-- A call returns the binding that is in effect after it. -/
lemma find?_bind_self_eq_bound : (t.bind x b).find? x = some (t.bound x b) := by
  rw [find?_bind, if_pos rfl, bound]
  cases t.find? x <;> rfl

lemma find?_empty : empty.find? x = none := rfl

/-! ## Order -/

/-- **Names stand in the order of the first calls with them**, after those that were bound
before. -/
lemma names_bindAll :
    (t.bindAll calls).names = t.names ++ ((calls.map Prod.fst).removeAll t.names).eraseDups := by
  induction calls generalizing t with
  | nil => exact (List.append_nil _).symm
  | cons c calls ih =>
      have hcons : t.bindAll (c :: calls) = (t.bind c.1 c.2).bindAll calls := rfl
      rw [hcons, ih, names_bind]
      exact eraseDups_removeAll t.names (some c.1) (calls.map Prod.fst)

/-- What can be read off the entries can be read off the names and what the table says of them. -/
lemma filterMap_names {β : Type} (f : Binding → Option β) :
    (t.names.filterMap fun x => ((t.find? x).bind f).map (x, ·)) =
      t.entries.filterMap fun e => (f e.2).map (e.1, ·) := by
  rw [names, List.filterMap_map]
  refine List.filterMap_congr fun e he => ?_
  rw [Function.comp_apply, find?_eq_some_iff.2 he, Option.bind_some]

/-- The entries of a table are its names with what it says of them. -/
lemma entries_eq_filterMap : t.entries = t.names.filterMap fun x => (t.find? x).map (x, ·) := by
  have hsome := t.filterMap_names some
  simp only [Option.bind_fun_some, Option.map_some] at hsome
  exact (List.filterMap_some (l := t.entries)).symm.trans hsome.symm

/-- The typed view of a table keeps the names of known type, in their order. -/
lemma typed_eq_filterMap : t.typed = t.names.filterMap fun x => (t.get? x).map (x, ·) := by
  have hget : ∀ x, t.get? x = (t.find? x).bind fun b => b.ty.base? := fun x => by
    rw [get?, lookup, Option.bind_map]
    rfl
  simp only [hget]
  exact (t.filterMap_names fun b => b.ty.base?).symm

lemma get?_eq_none_iff (h : x ∈ t.names) : t.get? x = none ↔ t.lookup x = some .unknown := by
  obtain ⟨ty, hty⟩ := exists_lookup_of_mem h
  rw [get?, hty, Option.bind_some]
  cases ty <;> simp [Ty.base?]

lemma mem_typed_iff {ty : BaseTy} : (x, ty) ∈ t.typed ↔ t.get? x = some ty := by
  rw [typed_eq_filterMap, List.mem_filterMap]
  constructor
  · rintro ⟨y, -, hy⟩
    obtain ⟨ty', hty', heq⟩ := Option.map_eq_some_iff.1 hy
    obtain ⟨rfl, rfl⟩ := Prod.mk.inj heq
    exact hty'
  · intro h
    obtain ⟨ty', hlookup, -⟩ := Option.bind_eq_some_iff.1 h
    exact ⟨x, mem_names_of_lookup hlookup, by rw [h, Option.map_some]⟩

/-- What the typed view leaves out are the names of unknown type. -/
lemma map_fst_typed :
    t.typed.map Prod.fst = t.names.filter fun x => t.lookup x ≠ some .unknown := by
  rw [typed_eq_filterMap, List.map_filterMap, ← List.filterMap_eq_filter]
  refine List.filterMap_congr fun x hx => ?_
  by_cases h : t.lookup x = some .unknown
  · simp [(get?_eq_none_iff hx).2 h, Option.guard, h]
  · obtain ⟨ty, hty⟩ := Option.ne_none_iff_exists'.1 fun hnone => h ((get?_eq_none_iff hx).1 hnone)
    simp [hty, Option.guard, h]

/-! ## Equality -/

lemma nodup_entries (t : SymbolTable) : t.entries.Nodup := t.nodup.of_map

/-- Tables that say the same have the same entries, up to their order. -/
lemma perm_entries_iff : t.entries.Perm u.entries ↔ ∀ x, t.find? x = u.find? x := by
  constructor
  · exact find?_congr_of_perm
  · intro h
    rw [List.perm_ext_iff_of_nodup t.nodup_entries u.nodup_entries]
    rintro ⟨x, b⟩
    rw [← find?_eq_some_iff, ← find?_eq_some_iff, h]

/-- **Tables are compared by what they say**, whatever their order. -/
lemma sameBindings_iff : t.sameBindings u = true ↔ ∀ x, t.find? x = u.find? x := by
  rw [← perm_entries_iff]
  constructor
  · intro h
    simp only [sameBindings, Bool.and_eq_true, beq_iff_eq, List.all_eq_true] at h
    obtain ⟨hsize, hall⟩ := h
    -- The entries of one are among those of the other, and there are as many of them.
    have hsub : t.entries ⊆ u.entries := fun e he => find?_eq_some_iff.1 (hall e he)
    exact (t.nodup_entries.subperm hsub).perm_of_length_le (Nat.le_of_eq hsize.symm)
  · exact sameBindings_of_perm

/-! ## Tables and calls -/

/-- The table answers every question by the calls that built it: the first call with a name decides
what is said of it and where it stands. -/
structure Records (t : SymbolTable) (calls : List (String × Binding)) : Prop where
  find? : ∀ x, t.find? x = calls.lookup x
  entries : t.entries =
    (calls.map Prod.fst).eraseDups.filterMap fun x => (calls.lookup x).map (x, ·)
  names : t.names = (calls.map Prod.fst).eraseDups
  eachOnce : t.names.Nodup
  /-- The size is the number of different names. -/
  size : t.size = (calls.map Prod.fst).toFinset.card
  typed : ∀ x ty, (x, ty) ∈ t.typed ↔ t.get? x = some ty
  /-- The typed view passes over the names of unknown type, which look-ups still report. -/
  typedNames : t.typed.map Prod.fst = t.names.filter fun x => t.lookup x ≠ some .unknown

lemma records_bindAll (calls : List (String × Binding)) : (empty.bindAll calls).Records calls := by
  have hfind : ∀ x, (empty.bindAll calls).find? x = calls.lookup x := fun x => by
    rw [find?_bindAll, find?_empty, Option.none_or]
  have hnames : (empty.bindAll calls).names = (calls.map Prod.fst).eraseDups := by
    rw [names_bindAll, names_empty]
    simp [List.removeAll]
  have hnodup : (empty.bindAll calls).names.Nodup := (empty.bindAll calls).nodup
  refine ⟨hfind, ?_, hnames, hnodup, ?_, fun x ty => mem_typed_iff, map_fst_typed⟩
  · rw [entries_eq_filterMap, hnames]
    simp only [hfind]
  · have hset : (empty.bindAll calls).names.toFinset = (calls.map Prod.fst).toFinset := by
      ext x
      rw [hnames, List.mem_toFinset, List.mem_toFinset, List.mem_eraseDups]
    rw [← hset, List.toFinset_card_of_nodup hnodup, names, List.length_map, size]

/-- A call returns the binding of the first call with its name: it is in effect after the call, and
stays in effect. -/
lemma bound_bindAll {before after : List (String × Binding)}
    (h : calls = before ++ (x, b) :: after) :
    calls.lookup x = some ((empty.bindAll before).bound x b) := by
  have hcalls : empty.bindAll calls = ((empty.bindAll before).bind x b).bindAll after := by
    rw [h]
    exact List.foldl_append
  rw [← (records_bindAll calls).find?, hcalls, find?_bindAll, find?_bind_self_eq_bound,
    Option.some_or]

/-- **A symbol table is an ordered map in which the first write wins.**

Let names be bound, one after another, in an empty table.

* The table answers by the first calls: what it says of a name, how its entries are ordered, how
  many they are, and which of them the typed view shows.
* Every call returns the binding of the first call with its name.
* Two tables built in this way are equal exactly if they say the same of every name, whatever the
  order of the calls. -/
theorem bindAll_first_write_wins (calls calls' : List (String × Binding)) :
    (empty.bindAll calls).Records calls ∧
      (∀ before x b after, calls = before ++ (x, b) :: after →
        calls.lookup x = some ((empty.bindAll before).bound x b)) ∧
      ((empty.bindAll calls).sameBindings (empty.bindAll calls') = true ↔
        ∀ x, (empty.bindAll calls).find? x = (empty.bindAll calls').find? x) := by
  refine ⟨records_bindAll calls, ?_, sameBindings_iff⟩
  intro before x b after h
  exact bound_bindAll h

/-- A name that was first assigned an ill-typed expression. -/
def spoiled : Binding := ⟨.unknown, .inferred, .ofLine 1⟩

/-- A name that was declared as an integer. -/
def declaredInt : Binding := ⟨.base .int, .declared, .ofLine 2⟩

/-- Two names are bound, and one of them again with another type. -/
def rebound : List (String × Binding) :=
  [("x", spoiled), ("y", declaredInt), ("x", ⟨.base .bool, .declared, .ofLine 3⟩)]

theorem bindAll_rebound :
    (empty.bindAll rebound).entries = [("x", spoiled), ("y", declaredInt)] ∧
      (empty.bindAll rebound).size = 2 ∧
      (empty.bindAll rebound).typed.map Prod.fst = ["y"] ∧
      (empty.bindAll (rebound.take 2)).bound "x" ⟨.base .bool, .declared, .ofLine 3⟩ = spoiled ∧
      (empty.bindAll rebound).sameBindings
        (empty.bindAll [("y", declaredInt), ("x", spoiled)]) = true := by
  obtain ⟨hrecords, hreturned, hequal⟩ :=
    bindAll_first_write_wins rebound [("y", declaredInt), ("x", spoiled)]
  refine ⟨hrecords.entries, hrecords.size, ?_, ?_, hequal.2 fun x => ?_⟩
  · rw [hrecords.typedNames, hrecords.names]
    rfl
  · exact (Option.some.inj (hreturned (rebound.take 2) "x" _ [] rfl)).symm
  · rw [hrecords.find?, (records_bindAll _).find?]
    by_cases hx : x = "x"
    · subst hx
      rfl
    · simp [rebound, List.lookup_cons, beq_false_of_ne hx]

end SymbolTable
end ScriptTyping
