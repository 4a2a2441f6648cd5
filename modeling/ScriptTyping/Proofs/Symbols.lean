import Mathlib.Data.List.Basic
import ScriptTyping.Symbols

/-!
# The symbol table as a first-write-wins map

Everything the checker does to its table is `SymbolTable.bind`, and everything it asks of the table
is `SymbolTable.lookup`.  This file relates the two, so that no later proof opens either.

* `lookup_bind_eq_some_iff` is the whole law of a binding: it answers for a name that was not bound,
  and says nothing new about any other.
* `isPrefix_bind` says the same of the order of the table: a binding changes nothing that is there.
  Growth is stated on `SymbolTable.entries` as a list prefix, because a prefix keeps the look-ups
  (`lookup_of_isPrefix`) as well as the order.
-/

namespace ScriptTyping

/-- Adding a name that may be new to `xs`, and then what is new in `zs`, is adding at once what is
new in both. -/
lemma eraseDups_removeAll (xs : List String) (y : Option String) (zs : List String) :
    xs ++ y.toList.removeAll xs ++ (zs.removeAll (xs ++ y.toList.removeAll xs)).eraseDups =
      xs ++ ((y.toList ++ zs).removeAll xs).eraseDups := by
  cases y with
  | none => simp [List.removeAll]
  | some y =>
      by_cases h : y ∈ xs
      · simp [List.cons_removeAll, h]
      · simp [List.removeAll, h, List.eraseDups_cons, Bool.and_comm, beq_eq_decide]

namespace SymbolTable

variable {t u : SymbolTable} {x y : String} {b : Binding} {ty : Ty}

/-! ## Bound names -/

@[simp] lemma names_empty : empty.names = [] := rfl

lemma find?_eq_none_iff : t.find? x = none ↔ x ∉ t.names := by
  simp only [find?, names, List.lookup_eq_none_iff, List.mem_map, bne_iff_ne]
  constructor
  · rintro h ⟨e, he, rfl⟩
    exact h e he rfl
  · intro h e he hx
    exact h ⟨e, he, hx.symm⟩

lemma lookup_eq_none_iff : t.lookup x = none ↔ x ∉ t.names := by
  rw [lookup, Option.map_eq_none_iff, find?_eq_none_iff]

lemma mem_names_of_lookup (h : t.lookup x = some ty) : x ∈ t.names := by
  by_contra hx
  rw [lookup_eq_none_iff.2 hx] at h
  cases h

lemma exists_lookup_of_mem (h : x ∈ t.names) : ∃ ty, t.lookup x = some ty := by
  rw [← Option.ne_none_iff_exists']
  exact fun hn => lookup_eq_none_iff.1 hn h

/-- What a table says of a name is what its entry of that name says. -/
lemma find?_eq_some_iff : t.find? x = some b ↔ (x, b) ∈ t.entries := by
  constructor
  · intro h
    obtain ⟨before, after, hsplit, -⟩ := List.lookup_eq_some_iff.1 h
    rw [hsplit]
    exact List.mem_append_right before List.mem_cons_self
  · intro h
    obtain ⟨before, after, hsplit⟩ := List.append_of_mem h
    have hnodup : (before.map Prod.fst ++ x :: after.map Prod.fst).Nodup := by
      simpa [hsplit] using t.nodup
    -- The name does not occur before the entry, so the entry is the first of its name.
    have hbefore : x ∉ before.map Prod.fst := fun hmem =>
      (List.nodup_append.1 hnodup).2.2 _ hmem _ List.mem_cons_self rfl
    rw [find?, List.lookup_eq_some_iff]
    refine ⟨before, after, hsplit, fun p hp => ?_⟩
    rw [bne_iff_ne]
    exact fun hp' => hbefore (List.mem_map.2 ⟨p, hp, hp'.symm⟩)

lemma lookup_of_mem_entries {e : String × Binding} (h : e ∈ t.entries) :
    t.lookup e.1 = some e.2.ty := by
  rw [lookup, find?_eq_some_iff.2 h, Option.map_some]

/-! ## Order

Look-ups and the comparison of tables do not depend on the order of entries. -/

lemma find?_congr_of_perm (h : t.entries.Perm u.entries) (x : String) : t.find? x = u.find? x := by
  ext b
  rw [find?_eq_some_iff, find?_eq_some_iff, h.mem_iff]

lemma lookup_congr_of_perm (h : t.entries.Perm u.entries) (x : String) :
    t.lookup x = u.lookup x := by
  rw [lookup, lookup, find?_congr_of_perm h]

lemma sameBindings_of_perm (h : t.entries.Perm u.entries) : t.sameBindings u = true := by
  have hsize : t.size = u.size := h.length_eq
  have hall : ∀ e ∈ t.entries, u.find? e.1 = some e.2 := by
    intro e he
    exact find?_eq_some_iff.2 (h.mem_iff.1 he)
  simp only [sameBindings, hsize, beq_self_eq_true, Bool.true_and, List.all_eq_true, beq_iff_eq]
  exact hall

/-! ## Binding -/

/-- The type in effect after a binding: the one there was, or else that of the binding. -/
lemma ty_bound : (t.bound x b).ty = (t.lookup x).getD b.ty := by
  rw [bound, lookup]
  cases t.find? x <;> rfl

lemma bind_of_mem (h : x ∈ t.names) : t.bind x b = t := dif_pos h

lemma entries_bind_of_notMem (h : x ∉ t.names) :
    (t.bind x b).entries = t.entries ++ [(x, b)] := by
  have hx : x ∉ t.entries.map Prod.fst := h
  rw [bind, dif_neg hx]

/-- A name is bound after a binding if it was bound before or is the one that was bound. -/
lemma mem_names_bind : y ∈ (t.bind x b).names ↔ y ∈ t.names ∨ y = x := by
  by_cases h : x ∈ t.names
  · rw [bind_of_mem h]
    exact ⟨Or.inl, fun hy => hy.elim id fun hyx => hyx ▸ h⟩
  · simp [names, entries_bind_of_notMem h]

lemma find?_bind_of_notMem (h : x ∉ t.names) :
    (t.bind x b).find? y = (t.find? y).or (if y = x then some b else none) := by
  rw [find?, entries_bind_of_notMem h, List.lookup_append, find?]
  congr 1
  by_cases hy : y = x
  · simp [hy]
  · simp [List.lookup_cons, hy, beq_false_of_ne hy]

lemma lookup_bind_of_notMem (h : x ∉ t.names) :
    (t.bind x b).lookup y = (t.lookup y).or (if y = x then some b.ty else none) := by
  rw [lookup, find?_bind_of_notMem h, lookup, Option.map_or]
  by_cases hy : y = x <;> simp [hy]

/-- **First write wins.** What a table says after a binding: what it said before, and what the
binding says of its name if the name was free. -/
lemma lookup_bind_eq_some_iff : (t.bind x b).lookup y = some ty ↔
    t.lookup y = some ty ∨ y = x ∧ x ∉ t.names ∧ b.ty = ty := by
  by_cases h : x ∈ t.names
  · simp [bind_of_mem h, h]
  · rw [lookup_bind_of_notMem h]
    by_cases hy : y = x
    · subst hy
      simp [lookup_eq_none_iff.2 h, h]
    · simp [hy]

lemma lookup_bind_self (h : x ∉ t.names) : (t.bind x b).lookup x = some b.ty :=
  lookup_bind_eq_some_iff.2 (Or.inr ⟨rfl, h, rfl⟩)

lemma find?_bind_self (h : x ∉ t.names) : (t.bind x b).find? x = some b := by
  rw [find?_bind_of_notMem h, find?_eq_none_iff.2 h, if_pos rfl, Option.none_or]

lemma mem_entries_bind {e : String × Binding} (h : e ∈ (t.bind x b).entries) :
    e ∈ t.entries ∨ e = (x, b) := by
  by_cases hx : x ∈ t.names
  · rw [bind_of_mem hx] at h
    exact Or.inl h
  · rw [entries_bind_of_notMem hx] at h
    exact (List.mem_append.1 h).imp id List.mem_singleton.1

/-- A binding adds its name to the end, unless the name is bound. -/
lemma names_bind : (t.bind x b).names = t.names ++ [x].removeAll t.names := by
  by_cases h : x ∈ t.names
  · simp [bind_of_mem h, List.cons_removeAll, h]
  · have hx : x ∉ t.entries.map Prod.fst := h
    simp [names, entries_bind_of_notMem h, List.cons_removeAll, hx]

/-! ## Growth -/

lemma isPrefix_bind : t.entries <+: (t.bind x b).entries := by
  by_cases h : x ∈ t.names
  · simp only [bind_of_mem h, List.prefix_rfl]
  · rw [entries_bind_of_notMem h]
    exact List.prefix_append _ _

lemma find?_of_isPrefix (h : t.entries <+: u.entries) (hx : t.find? x = some b) :
    u.find? x = some b := by
  obtain ⟨rest, hu⟩ := h
  rw [find?] at hx
  rw [find?, ← hu, List.lookup_append, hx, Option.some_or]

lemma lookup_of_isPrefix (h : t.entries <+: u.entries) (hx : t.lookup x = some ty) :
    u.lookup x = some ty := by
  obtain ⟨b, hb, rfl⟩ := Option.map_eq_some_iff.1 hx
  rw [lookup, find?_of_isPrefix h hb, Option.map_some]

/-! ## Rebuilding a table -/

lemma entries_put_of_notMem (h : x ∉ t.names) : (t.put x b).entries = t.entries ++ [(x, b)] := by
  have hx : x ∉ t.entries.map Prod.fst := h
  rw [put, dif_neg hx]

/-- Entries of new names are put at the end, one after another. -/
lemma entries_foldl_put {es : List (String × Binding)}
    (h : ((t.entries ++ es).map Prod.fst).Nodup) :
    (es.foldl (fun t e => t.put e.1 e.2) t).entries = t.entries ++ es := by
  induction es generalizing t with
  | nil => exact (List.append_nil _).symm
  | cons e es ih =>
      have hfree : e.1 ∉ t.names := by
        rw [List.map_append, List.nodup_append] at h
        exact fun hmem => h.2.2 _ hmem _ List.mem_cons_self rfl
      have hentries := entries_put_of_notMem (b := e.2) hfree
      have hnodup : (((t.put e.1 e.2).entries ++ es).map Prod.fst).Nodup := by
        rw [hentries, List.append_assoc]
        exact h
      rw [List.foldl_cons, ih hnodup, hentries, List.append_assoc]
      rfl

/-- A table is what its entries make when they are put in one after another. -/
lemma ofList_entries (t : SymbolTable) : ofList t.entries = t :=
  SymbolTable.ext (entries_foldl_put t.nodup)

end SymbolTable
end ScriptTyping
