import ScriptTyping.Dump
import ScriptTyping.Proofs.Reading.Tables
import ScriptTyping.Proofs.Ron.Layout
import ScriptTyping.Proofs.Ron.RoundTrip

/-!
# Dumps are read back

A RON dump of a symbol table is a document over several lines with a line end after it.  This file
shows that it is read as the table it was made from, whatever names are in it, and so is the compact
form of the table.

The depth of a table does not depend on its entries, and it is far below what can be read; so there
is no table that is refused.

Main statement: `SymbolTable.read_dump`.
-/

namespace ScriptTyping.Ron

/-! ## Depth -/

mutual

/-- Whatever can be read back can be written in the first place. -/
lemma writeNeed_le_readNeed : ∀ d : Datum, writeNeed d ≤ readNeed d
  | .tagged _ payload => Nat.add_le_add (writeNeed_le_readNeed payload) (by decide)
  | .wrapper _ inner => Nat.add_le_add_right (writeNeed_le_readNeed inner) 1
  | .present inner => Nat.add_le_add_right (writeNeed_le_readNeed inner) 1
  | .list items => writeNeedItems_le_readNeedItems items
  | .record _ fields => writeNeedFields_le_readNeedFields fields
  | .table entries => writeNeedFields_le_readNeedFields entries
  | .number _ | .text _ | .flag _ | .tag _ | .absent => Nat.zero_le _

lemma writeNeedItems_le_readNeedItems : ∀ ds : List Datum, writeNeedItems ds ≤ readNeedItems ds
  | [] => Nat.le_refl 1
  | d :: rest => by
      have hd := writeNeed_le_readNeed d
      have hrest := writeNeedItems_le_readNeedItems rest
      rw [writeNeedItems, readNeedItems]
      omega

lemma writeNeedFields_le_readNeedFields :
    ∀ fs : List (String × Datum), writeNeedFields fs ≤ readNeedFields fs
  | [] => Nat.le_refl 1
  | (_, d) :: rest => by
      have hd := writeNeed_le_readNeed d
      have hrest := writeNeedFields_le_readNeedFields rest
      rw [writeNeedFields, readNeedFields]
      omega

end

/-- A binding takes six levels: two for itself, two for its type or its location, and two for what
is in them. -/
lemma readNeed_binding (b : Binding) : readNeed b.datum = 6 := by
  obtain ⟨ty, kind, location⟩ := b
  cases ty <;> rfl

/-- No table is too deep. -/
lemma readNeed_symbolTable (t : SymbolTable) : readNeed t.datum ≤ depthLimit := by
  rw [SymbolTable.datum, readNeed, readNeedFields_le_iff]
  refine ⟨by decide, fun f hf => ?_⟩
  obtain ⟨e, -, rfl⟩ := List.mem_map.1 hf
  rw [readNeed_binding]
  decide

/-! ## Documents stand for tables -/

namespace Cursor

variable {d : Datum} {c : Cursor}

lemma textEntries_ofEntries (es : List (String × Datum)) (outer room : Nat) :
    (ofDatum d outer).textEntries room (Value.ofEntries es) =
      .ok (es.map fun e => (e.1, ofDatum e.2 room)) := by
  induction es with
  | nil => rfl
  | cons e es ih =>
      rw [Value.ofEntries, textEntries, ih]
      rfl

lemma gives_entries {es : List (String × Datum)} (h : Stands (.table es) c) :
    ∃ parts p, List.Forall₂ (EntryWith Stands) es parts ∧ Gives c.entries p parts ∧
      (Fits (.table es) c ↔ p ∧ List.Forall₂ (EntryWith Fits) es parts) := by
  obtain ⟨room, rfl⟩ := h
  cases es with
  | nil =>
      refine ⟨[], 1 ≤ room, .nil, (gives_spend room 1).bind_ok rfl, ?_⟩
      simp [Fits, readNeed, readNeedFields, ofDatum]
  | cons e es =>
      refine ⟨(e :: es).map fun e => (e.1, ofDatum e.2 (room - 2)), 2 ≤ room, ?_, ?_, ?_⟩
      · rw [List.forall₂_map_right_iff, List.forall₂_same]
        exact fun e _ => ⟨rfl, _, rfl⟩
      · refine (gives_spend room 2).bind_ok ?_
        exact textEntries_ofEntries (e :: es) room _
      · rw [Fits, readNeed, readNeedFields_le_iff, ofDatum, forall_add_two_le_iff,
          List.forall₂_map_right_iff, List.forall₂_same]
        refine and_congr_right fun _ => forall₂_congr fun e _ => ?_
        exact (and_iff_right rfl).symm

end Cursor

/-- Documents stand for tables as they do for trees. -/
def tableRepresentation : TableRepresentation Cursor where
  toRepresentation := representation
  entries := Cursor.gives_entries

/-! ## Names in tables -/

lemma wellNamed_ty (ty : Ty) : WellNamed ty.datum := by
  cases ty with
  | base b => exact ⟨by decide, wellNamed_baseTy b⟩
  | unknown =>
      change isPlainWord "Untyped".toList
      decide

lemma wellNamed_bindingKind (k : BindingKind) : WellNamed (.tag k.tagName) := by
  change isPlainWord k.tagName.toList
  cases k <;> decide

lemma wellNamed_binding (b : Binding) : WellNamed b.datum :=
  ⟨by decide, wellNamed_ty b.ty, by decide, wellNamed_bindingKind b.kind, by decide,
    wellNamed_span b.location, trivial⟩

lemma wellNamedEntries_bindings (es : List (String × Binding)) :
    WellNamedEntries (es.map fun e => (e.1, e.2.datum)) := by
  induction es with
  | nil => trivial
  | cons e es ih => exact ⟨wellNamed_binding e.2, ih⟩

/-- The names of variables are keys, and keys may be any texts. -/
lemma wellNamed_symbolTable (t : SymbolTable) : WellNamed t.datum :=
  wellNamedEntries_bindings t.entries

/-- Whatever text is read as the document of a table is read as the table. -/
lemma read_symbolTable {t : SymbolTable} {s : String}
    (h : parse s = some ({}, Value.ofDatum t.datum)) : read readSymbolTable s = .ok t := by
  have hgives := tableRepresentation.reads_symbolTable t (.ofDatum t.datum depthLimit) ⟨_, rfl⟩
  rw [read, h]
  exact hgives.ok (readNeed_symbolTable t)

end ScriptTyping.Ron

namespace ScriptTyping

/-- **A dump of a symbol table is read back as that table.**

The entries come back in their order, each with its name, its type, the way it came to be in the
table and its location.  This holds for the dump in RON, which is written over several lines, and
for the compact form, which every table has. -/
theorem SymbolTable.read_dump (t : SymbolTable) (path : String) :
    Ron.read readSymbolTable (t.dump .ron path) = .ok t ∧
      ∃ s, Ron.write t.datum = some s ∧ Ron.read readSymbolTable s = .ok t := by
  constructor
  · have hdump : t.dump .ron path =
        String.ofList ((Ron.Value.ofDatum t.datum).pretty 0 ++ ['\n']) := by
      rw [dump, Ron.writePretty, String.ofList_append]
    have hspelled := Ron.spelled_pretty t.datum 0 (Ron.wellNamed_symbolTable t)
    refine Ron.read_symbolTable ?_
    rw [hdump]
    exact hspelled.parse_ofList_append (Ron.blanks_cons (by decide) Ron.blanks_nil)
  · have hwrite : Ron.write t.datum = some (String.ofList (Ron.Value.ofDatum t.datum).compact) :=
      if_pos (Nat.le_trans (Ron.writeNeed_le_readNeed t.datum) (Ron.readNeed_symbolTable t))
    have hspelled := Ron.spelled_compact t.datum (Ron.wellNamed_symbolTable t)
    exact ⟨_, hwrite, Ron.read_symbolTable hspelled.parse_ofList⟩

end ScriptTyping
