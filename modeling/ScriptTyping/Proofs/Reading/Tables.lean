import ScriptTyping.Proofs.Reading.Representation
import ScriptTyping.Proofs.Symbols

/-!
# Reading symbol tables

A symbol table is a table of the format from the names to their bindings.  What a format has to
answer for that is one law more than for trees: asked for the entries of a table, a value that
stands for the table gives the keys in order, each with a value that stands for what it holds.

The reader puts the entries into an empty table, one after another.  A key that comes again would
take the place of the first; the keys of a table are all different, so this does not happen.

Main statement: `TableRepresentation.reads_symbolTable`.
-/

namespace ScriptTyping

variable {α V : Type}

/-- The entries have the same key, and the datum of one and the value of the other are related. -/
def EntryWith (p : Datum → V → Prop) (e : String × Datum) (part : String × V) : Prop :=
  e.1 = part.1 ∧ p e.2 part.2

/-- A representation in which tables can be told too. -/
structure TableRepresentation (V : Type) [Source V] extends Representation V where
  entries {es : List (String × Datum)} {v : V} (h : Stands (.table es) v) :
    ∃ parts p, List.Forall₂ (EntryWith Stands) es parts ∧ Gives (Source.entries v) p parts ∧
      (Fits (.table es) v ↔ p ∧ List.Forall₂ (EntryWith Fits) es parts)

namespace Representation

variable [Source V] {R : Representation V}

lemma reads_ty (ty : Ty) : R.Reads readTy ty.datum ty := by
  intro v hv
  cases ty with
  | base b => exact gives_tagged trivial hv fun u hu _ => (reads_baseTy b u hu).bind_ok rfl
  | unknown => exact (R.tag hv).bind_ok rfl

lemma reads_bindingKind (k : BindingKind) : R.Reads readBindingKind (.tag k.tagName) k :=
  reads_tag k (by cases k <;> rfl)

lemma reads_binding (b : Binding) : R.Reads readBinding b.datum b := by
  intro v hv
  refine gives_fields hv rfl (by decide) fun parts hparts _ => ?_
  simp only [List.forall_mem_cons] at hparts ⊢
  obtain ⟨hty, hkind, hlocation, -⟩ := hparts
  refine gives_required hty (not_omissible (by decide)) (fun u _ => reads_ty b.ty u) ?_
  refine gives_required hkind (not_omissible (by decide)) (fun u _ => reads_bindingKind b.kind u) ?_
  refine gives_required hlocation (not_omissible (by decide))
    (fun u _ => reads_span b.location u) ?_
  exact gives_done b

/-- The entries of a table are read one by one, each under its key. -/
lemma gives_entries {es : List (String × Binding)} {parts : List (String × V)}
    (h : List.Forall₂ (EntryWith R.Stands) (es.map fun e => (e.1, e.2.datum)) parts) :
    Gives (parts.mapM readEntry)
      (List.Forall₂ (EntryWith R.Fits) (es.map fun e => (e.1, e.2.datum)) parts) es := by
  induction es generalizing parts with
  | nil =>
      cases h
      exact (gives_pure []).congr (by simp)
  | cons e es ih =>
      obtain ⟨name, b⟩ := e
      cases h with
      | @cons _ part _ parts hentry hrest =>
          obtain ⟨key, u⟩ := part
          obtain ⟨rfl, hu⟩ : name = key ∧ R.Stands b.datum u := hentry
          have hread : Gives (readEntry (name, u)) (R.Fits b.datum u) (name, b) :=
            (reads_binding b u hu).bind_ok rfl
          have hfits : EntryWith R.Fits (name, b.datum) (name, u) ↔ R.Fits b.datum u :=
            and_iff_right rfl
          rw [List.mapM_cons, List.map_cons, List.forall₂_cons, hfits]
          exact hread.bind fun _ => (ih hrest).bind_ok rfl

end Representation

/-- **A symbol table is read as itself.** Whatever stands for a table is read as that table, with
its entries in order and their types, kinds and locations, if it fits; and if not, it is refused as
too deep. -/
theorem TableRepresentation.reads_symbolTable [Source V] (R : TableRepresentation V)
    (t : SymbolTable) : R.Reads readSymbolTable t.datum t := by
  intro v hv
  obtain ⟨parts, p, hstands, hgives, hfits⟩ := R.entries hv
  refine (hgives.bind fun _ => (Representation.gives_entries hstands).bind_ok ?_).congr hfits.symm
  rw [SymbolTable.ofList_entries]
  rfl

end ScriptTyping
