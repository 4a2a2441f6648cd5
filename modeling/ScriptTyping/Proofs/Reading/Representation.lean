import Mathlib.Data.List.Forall2
import Mathlib.Tactic.Lemma
import ScriptTyping.Reading.Tree

/-!
# Readers over lawful formats

The readers of trees ask a format questions and put the answers together.  This file says what a
format has to answer so that a tree is read as itself, and proves it once for all such formats.

A `Representation` says which values of a format stand for which data.  Its laws give the answer to
each question: asked for the fields of a record, a value that stands for a record gives values that
stand for its fields, and so on.  A field that holds its default may be left out.

A format may limit how deep values are nested.  Whether a value fits is a matter of the format too,
and the only failure there is: `Gives` describes an answer that is right if the value fits, and
otherwise says that the value is too deep.

Main statement: `Representation.reads_program`.  A value that stands for a program is read as that
program, spans included, or it does not fit.
-/

namespace ScriptTyping

variable {α β V : Type}

/-! ## Answers -/

/-- The answer is `a` if `p` holds, and otherwise that the value is too deep. -/
structure Gives (x : Except ReadError α) (p : Prop) (a : α) : Prop where
  ok : p → x = .ok a
  tooDeep : ¬ p → x = .error .tooDeep

namespace Gives

variable {x : Except ReadError α} {f : α → Except ReadError β} {a : α} {b : β} {p q : Prop}

lemma bind (hx : Gives x p a) (hf : p → Gives (f a) q b) : Gives (x >>= f) (p ∧ q) b := by
  constructor
  · rintro ⟨hp, hq⟩
    rw [hx.ok hp]
    exact (hf hp).ok hq
  · intro hpq
    by_cases hp : p
    · rw [hx.ok hp]
      exact (hf hp).tooDeep fun hq => hpq ⟨hp, hq⟩
    · rw [hx.tooDeep hp]
      rfl

lemma congr (hx : Gives x p a) (h : p ↔ q) : Gives x q a :=
  ⟨fun hq => hx.ok (h.2 hq), fun hq => hx.tooDeep fun hp => hq (h.1 hp)⟩

lemma bind_ok (hx : Gives x p a) (hf : f a = .ok b) : Gives (x >>= f) p b := by
  constructor
  · intro hp
    rw [hx.ok hp]
    exact hf
  · intro hp
    rw [hx.tooDeep hp]
    rfl

end Gives

lemma gives_pure (a : α) : Gives (pure a) True a := ⟨fun _ => rfl, fun h => absurd trivial h⟩

lemma Stmt.describeAll_eq_map (ss : List Stmt) :
    Stmt.describeAll Name.datum ss = ss.map Stmt.datum := by
  induction ss with
  | nil => rfl
  | cons s ss ih =>
      rw [Stmt.describeAll, ih]
      rfl

/-! ## Representations -/

/-- The fields that may be left out: an end of a span that is at line 1, column 1, a span with both
ends there, and an initializer that is absent. -/
def Omissible (name : String) (d : Datum) : Prop :=
  name = "span" ∧ d = Span.datum ⟨{ line := 1, col := 1 }, { line := 1, col := 1 }⟩ ∨
    (name = "start" ∨ name = "end") ∧ d = Position.datum { line := 1, col := 1 } ∨
    name = "init" ∧ d = .absent

lemma not_omissible {name : String} {d : Datum} (h : name ∉ ["span", "start", "end", "init"]) :
    ¬ Omissible name d := by
  rintro (⟨rfl, -⟩ | ⟨rfl | rfl, -⟩ | ⟨rfl, -⟩) <;> exact h (by decide)

lemma Position.eq_of_datum_eq {p q : Position} (h : p.datum = q.datum) : p = q := by
  cases p
  cases q
  simp only [Position.datum, Datum.record.injEq, List.cons.injEq, Prod.mk.injEq,
    Datum.number.injEq, Int.natCast_inj, UInt64.toNat_inj] at h
  rw [Position.mk.injEq]
  exact ⟨h.2.1.2, h.2.2.1.2⟩

lemma Span.eq_of_datum_eq {s t : Span} (h : s.datum = t.datum) : s = t := by
  cases s
  cases t
  simp only [Span.datum, Datum.record.injEq, List.cons.injEq, Prod.mk.injEq] at h
  rw [Span.mk.injEq]
  exact ⟨Position.eq_of_datum_eq h.2.1.2, Position.eq_of_datum_eq h.2.2.1.2⟩

lemma Omissible.end_eq {name : String} {p : Position} (hname : name = "start" ∨ name = "end")
    (h : Omissible name p.datum) : Position.origin = p := by
  rcases h with ⟨rfl, -⟩ | ⟨-, h⟩ | ⟨rfl, -⟩
  · simp at hname
  · exact (Position.eq_of_datum_eq h).symm
  · simp at hname

lemma Omissible.span_eq {s : Span} (h : Omissible "span" s.datum) : Span.origin = s := by
  rcases h with ⟨-, h⟩ | ⟨hname, -⟩ | ⟨hname, -⟩
  · exact (Span.eq_of_datum_eq h).symm
  · simp at hname
  · simp at hname

lemma Omissible.eq_absent {d : Datum} (h : Omissible "init" d) : d = .absent := by
  rcases h with ⟨hname, -⟩ | ⟨hname, -⟩ | ⟨-, h⟩
  · simp at hname
  · simp at hname
  · exact h

/-- The datum is not optional, even inside wrappers. A format may write an absent value as if
nothing were there, so it answers for what a tag or an optional value holds only if that is
definite. -/
def Datum.Definite : Datum → Prop
  | .absent => False
  | .present _ => False
  | .wrapper _ inner => inner.Definite
  | _ => True

lemma Term.definite_describe (t : Term) : (t.describe Name.datum).Definite := by
  cases t <;> trivial

/-- Among the parts of a record there is one that stands for the field, or the field may be left
out. -/
def Answers (stands : Datum → V → Prop) (parts : List (String × V)) (f : String × Datum) : Prop :=
  (∃ v, parts.lookup f.1 = some v ∧ stands f.2 v) ∨ parts.lookup f.1 = none ∧ Omissible f.1 f.2

lemma mem_of_lookup {parts : List (String × V)} {n : String} {u : V}
    (h : parts.lookup n = some u) : (n, u) ∈ parts := by
  obtain ⟨before, after, rfl, -⟩ := List.lookup_eq_some_iff.1 h
  simp

/-- Where names are all different, a part is found under its name. -/
lemma lookup_eq_some_iff_mem {parts : List (String × V)} (h : (parts.map Prod.fst).Nodup)
    {n : String} {u : V} : parts.lookup n = some u ↔ (n, u) ∈ parts := by
  refine ⟨mem_of_lookup, fun hmem => ?_⟩
  obtain ⟨before, after, rfl⟩ := List.append_of_mem hmem
  refine List.lookup_eq_some_iff.2 ⟨before, after, rfl, fun e he => ?_⟩
  rw [List.map_append, List.map_cons] at h
  have hne := (List.nodup_append.1 h).2.2 e.1 (List.mem_map_of_mem he) n List.mem_cons_self
  exact bne_iff_ne.2 hne.symm

/-- What is there of the field fits. -/
def FieldFits (fits : Datum → V → Prop) (parts : List (String × V)) (f : String × Datum) : Prop :=
  ∀ v, parts.lookup f.1 = some v → fits f.2 v

/-- Which values of a format stand for which data, and which of them are not nested too deep. Each
law gives the answer to one question; `p` is the share of the answer in what has to fit. -/
structure Representation (V : Type) [Source V] where
  /-- The value is a way to write the datum. -/
  Stands : Datum → V → Prop
  /-- A value that stands for the datum is not nested too deep. -/
  Fits : Datum → V → Prop
  natural {w : UInt64} {v : V} (h : Stands (.number w.toNat) v) :
    Gives (Source.natural v) (Fits (.number w.toNat) v) w
  integer {w : Int64} {v : V} (h : Stands (.number w.toInt) v) :
    Gives (Source.integer v) (Fits (.number w.toInt) v) w
  text {s : String} {v : V} (h : Stands (.text s) v) :
    Gives (Source.text v) (Fits (.text s) v) s
  flag {b : Bool} {v : V} (h : Stands (.flag b) v) :
    Gives (Source.flag v) (Fits (.flag b) v) b
  tag {name : String} {v : V} (h : Stands (.tag name) v) :
    Gives (Source.tag v) (Fits (.tag name) v) (name, none)
  /-- A tag is opened on the way to its payload. -/
  tagged {name : String} {d : Datum} {v : V} (hd : d.Definite) (h : Stands (.tagged name d) v) :
    ∃ u p, Stands d u ∧ Gives (Source.tag v) p (name, some u) ∧
      (p → Source.reach u < Source.reach v) ∧ (Fits (.tagged name d) v ↔ p ∧ Fits d u)
  unwrap {name : String} {d : Datum} {v : V} (h : Stands (.wrapper name d) v) :
    ∃ u p, Stands d u ∧ Gives (Source.unwrap name v) p u ∧
      (Fits (.wrapper name d) v ↔ p ∧ Fits d u)
  absent {v : V} (h : Stands .absent v) : Gives (Source.optional v) (Fits .absent v) none
  present {d : Datum} {v : V} (hd : d.Definite) (h : Stands (.present d) v) :
    ∃ u p, Stands d u ∧ Gives (Source.optional v) p (some u) ∧
      (Fits (.present d) v ↔ p ∧ Fits d u)
  items {ds : List Datum} {v : V} (h : Stands (.list ds) v) :
    ∃ us p, List.Forall₂ Stands ds us ∧ Gives (Source.items v) p us ∧
      (p → ∀ u ∈ us, Source.reach u ≤ Source.reach v) ∧
      (Fits (.list ds) v ↔ p ∧ List.Forall₂ Fits ds us)
  fields {name : String} {fs : List (String × Datum)} {v : V} (h : Stands (.record name fs) v)
    (hfs : (fs.map Prod.fst).Nodup) :
    ∃ parts p, (∀ f ∈ fs, Answers Stands parts f) ∧
      Gives (Source.fields name (fs.map Prod.fst) v) p parts ∧
      (p → ∀ n u, parts.lookup n = some u → Source.reach u ≤ Source.reach v) ∧
      (Fits (.record name fs) v ↔ p ∧ ∀ f ∈ fs, FieldFits Fits parts f)

namespace Representation

variable [Source V] (R : Representation V)

/-- The reader reads whatever stands for the datum as `a`. -/
def Reads (read : V → Except ReadError α) (d : Datum) (a : α) : Prop :=
  ∀ v, R.Stands d v → Gives (read v) (R.Fits d v) a

/-! ## Records -/

variable {R} {parts : List (String × V)} {name : String} {d : Datum} {q : Prop} {a : α} {b : β}

/-- A record is read if its fields are, whatever parts stand for them. -/
lemma gives_fields {fs : List (String × Datum)} {known : List String} {v : V}
    {body : List (String × V) → Except ReadError α} (h : R.Stands (.record name fs) v)
    (hknown : fs.map Prod.fst = known) (hnodup : known.Nodup)
    (hbody : ∀ parts, (∀ f ∈ fs, Answers R.Stands parts f) →
      (∀ n u, parts.lookup n = some u → Source.reach u ≤ Source.reach v) →
      Gives (body parts) (∀ f ∈ fs, FieldFits R.Fits parts f) a) :
    Gives (Source.fields name known v >>= body) (R.Fits (.record name fs) v) a := by
  subst hknown
  obtain ⟨parts, p, hanswers, hgives, hreach, hfits⟩ := R.fields h hnodup
  exact (hgives.bind fun hp => hbody parts hanswers (hreach hp)).congr hfits.symm

/-- A field that has to be there is read by its own reader. -/
lemma gives_required {read : V → Except ReadError α} {next : α → Except ReadError β}
    (h : Answers R.Stands parts (name, d)) (hname : ¬ Omissible name d)
    (hread : ∀ v, parts.lookup name = some v → R.Stands d v → Gives (read v) (R.Fits d v) a)
    (hnext : Gives (next a) q b) :
    Gives (Source.required parts name >>= fun v => read v >>= next)
      (FieldFits R.Fits parts (name, d) ∧ q) b := by
  obtain ⟨v, hv, hstands⟩ := h.resolve_right fun homit => hname homit.2
  have hrequired : Source.required parts name = .ok v := by rw [Source.required, hv]
  have hfits : FieldFits R.Fits parts (name, d) ↔ R.Fits d v := by
    simp [FieldFits, hv]
  rw [hrequired]
  exact ((hread v hv hstands).bind fun _ => hnext).congr (and_congr_left' hfits.symm)

/-- A field that may be left out is read by its own reader if it is there, and otherwise it holds
its default. -/
lemma gives_orDefault {read : V → Except ReadError α} {next : α → Except ReadError β} {default : α}
    (h : Answers R.Stands parts (name, d)) (hdefault : Omissible name d → default = a)
    (hread : ∀ v, parts.lookup name = some v → R.Stands d v → Gives (read v) (R.Fits d v) a)
    (hnext : Gives (next a) q b) :
    Gives (Source.orDefault parts name default read >>= next)
      (FieldFits R.Fits parts (name, d) ∧ q) b := by
  refine Gives.bind ?_ fun _ => hnext
  rcases h with ⟨v, hv, hstands⟩ | ⟨hnone, homit⟩
  · have hfits : R.Fits d v ↔ FieldFits R.Fits parts (name, d) := by
      simp [FieldFits, hv]
    rw [Source.orDefault, hv]
    exact (hread v hv hstands).congr hfits
  · have hfits : True ↔ FieldFits R.Fits parts (name, d) := by
      simp [FieldFits, hnone]
    rw [Source.orDefault, hnone, hdefault homit]
    exact (gives_pure a).congr hfits

/-- After the last field there is nothing left that has to fit. -/
lemma gives_done (a : α) : Gives (pure a) (∀ f ∈ [], FieldFits R.Fits parts f) a :=
  (gives_pure a).congr (by simp)

/-! ## Tags, wrappers and lists -/

lemma gives_tagged {v : V} {next : String × Option V → Except ReadError α}
    (hd : d.Definite) (h : R.Stands (.tagged name d) v)
    (hnext : ∀ u, R.Stands d u → Source.reach u < Source.reach v →
      Gives (next (name, some u)) (R.Fits d u) a) :
    Gives (Source.tag v >>= next) (R.Fits (.tagged name d) v) a := by
  obtain ⟨u, p, hstands, hgives, hreach, hfits⟩ := R.tagged hd h
  exact (hgives.bind fun hp => hnext u hstands (hreach hp)).congr hfits.symm

lemma gives_unwrap {v : V} {next : V → Except ReadError α} (h : R.Stands (.wrapper name d) v)
    (hnext : ∀ u, R.Stands d u → Gives (next u) (R.Fits d u) a) :
    Gives (Source.unwrap name v >>= next) (R.Fits (.wrapper name d) v) a := by
  obtain ⟨u, p, hstands, hgives, hfits⟩ := R.unwrap h
  exact (hgives.bind fun _ => hnext u hstands).congr hfits.symm

lemma gives_present {v : V} {next : Option V → Except ReadError α} (hd : d.Definite)
    (h : R.Stands (.present d) v)
    (hnext : ∀ u, R.Stands d u → Gives (next (some u)) (R.Fits d u) a) :
    Gives (Source.optional v >>= next) (R.Fits (.present d) v) a := by
  obtain ⟨u, p, hstands, hgives, hfits⟩ := R.present hd h
  exact (hgives.bind fun _ => hnext u hstands).congr hfits.symm

lemma gives_mapM {describe : α → Datum} {read : V → Except ReadError α} {as : List α}
    {us : List V} (h : List.Forall₂ R.Stands (as.map describe) us)
    (hread : ∀ a ∈ as, ∀ u ∈ us, R.Stands (describe a) u →
      Gives (read u) (R.Fits (describe a) u) a) :
    Gives (us.mapM read) (List.Forall₂ R.Fits (as.map describe) us) as := by
  induction as generalizing us with
  | nil =>
      cases h
      exact (gives_pure []).congr (by simp)
  | cons a as ih =>
      cases h with
      | @cons _ u _ us hu hus =>
          rw [List.mapM_cons, List.map_cons, List.forall₂_cons]
          refine (hread a List.mem_cons_self u List.mem_cons_self hu).bind fun _ => ?_
          refine (ih hus fun b hb w hw => ?_).bind_ok rfl
          exact hread b (List.mem_cons_of_mem a hb) w (List.mem_cons_of_mem u hw)

/-- The items of a list are read one by one. -/
lemma gives_items {describe : α → Datum} {read : V → Except ReadError α} {as : List α} {v : V}
    (h : R.Stands (.list (as.map describe)) v)
    (hread : ∀ a ∈ as, ∀ u, Source.reach u ≤ Source.reach v → R.Stands (describe a) u →
      Gives (read u) (R.Fits (describe a) u) a) :
    Gives (Source.items v >>= fun us => us.mapM read) (R.Fits (.list (as.map describe)) v) as := by
  obtain ⟨us, p, hstands, hgives, hreach, hfits⟩ := R.items h
  refine (hgives.bind fun hp => ?_).congr hfits.symm
  exact gives_mapM hstands fun a ha u hu => hread a ha u (hreach hp u hu)

/-- A field that has to hold a list is read item by item. -/
lemma gives_requiredItems {describe : α → Datum} {read : V → Except ReadError α} {as : List α}
    {next : List α → Except ReadError β}
    (h : Answers R.Stands parts (name, .list (as.map describe)))
    (hname : ¬ Omissible name (.list (as.map describe)))
    (hread : ∀ v, parts.lookup name = some v → ∀ a ∈ as, ∀ u, Source.reach u ≤ Source.reach v →
      R.Stands (describe a) u → Gives (read u) (R.Fits (describe a) u) a)
    (hnext : Gives (next as) q b) :
    Gives (Source.required parts name >>= fun v => Source.items v >>= fun us =>
        us.mapM read >>= next)
      (FieldFits R.Fits parts (name, .list (as.map describe)) ∧ q) b := by
  have hrequired := gives_required h hname
    (fun v hv hstands => gives_items hstands fun a ha u => hread v hv a ha u) hnext
  -- the readers bind the list itself before its items, which is the same up to association
  simpa only [bind_assoc] using hrequired

/-- A tag without payload is found by its name. -/
lemma reads_tag {all : List α} {tagName : α → String} (a : α)
    (ha : all.find? (tagName · == tagName a) = some a) :
    R.Reads (readTag all tagName) (.tag (tagName a)) a := by
  intro v hv
  refine (R.tag hv).bind_ok ?_
  simp only [ha]
  rfl

/-! ## Names and literals -/

lemma reads_position (p : Position) : R.Reads readPosition p.datum p := by
  intro v hv
  refine gives_fields hv rfl (by decide) fun parts hparts _ => ?_
  simp only [List.forall_mem_cons] at hparts ⊢
  obtain ⟨hline, hcol, -⟩ := hparts
  refine gives_required hline (not_omissible (by decide)) (fun _ _ => R.natural) ?_
  refine gives_required hcol (not_omissible (by decide)) (fun _ _ => R.natural) ?_
  exact gives_done p

lemma reads_span (s : Span) : R.Reads readSpan s.datum s := by
  intro v hv
  refine gives_fields hv rfl (by decide) fun parts hparts _ => ?_
  simp only [List.forall_mem_cons] at hparts ⊢
  obtain ⟨hstart, hstop, -⟩ := hparts
  refine gives_orDefault hstart (Omissible.end_eq (.inl rfl))
    (fun u _ => reads_position s.start u) ?_
  refine gives_orDefault hstop (Omissible.end_eq (.inr rfl)) (fun u _ => reads_position s.stop u) ?_
  exact gives_done s

/-- The span of a node is the last of its fields. -/
lemma gives_spanField {next : Span → Except ReadError β} {s : Span}
    (h : Answers R.Stands parts ("span", s.datum)) (hnext : next s = .ok b) :
    Gives (readSpanField parts >>= next)
      (FieldFits R.Fits parts ("span", s.datum) ∧ ∀ f ∈ [], FieldFits R.Fits parts f) b := by
  refine gives_orDefault h Omissible.span_eq (fun u _ => reads_span s u) ?_
  rw [hnext]
  exact gives_done b

lemma reads_spanned {value : α → Datum} {read : V → Except ReadError α} (s : Spanned α)
    (h : R.Reads read (value s.value) s.value) :
    R.Reads (readSpanned read) (s.describe value) s := by
  intro v hv
  refine gives_fields hv rfl (by decide) fun parts hparts _ => ?_
  simp only [List.forall_mem_cons] at hparts ⊢
  obtain ⟨hvalue, hspan, -⟩ := hparts
  refine gives_required hvalue (not_omissible (by decide)) (fun u _ => h u) ?_
  exact gives_spanField hspan rfl

lemma reads_baseTy (b : BaseTy) : R.Reads readBaseTy b.datum b :=
  reads_tag b (by cases b <;> rfl)

lemma reads_operator (op : Operator) : R.Reads readOperator op.datum op :=
  reads_tag op (by cases op <;> rfl)

lemma reads_name (n : Name) : R.Reads readName n.datum n := by
  intro v hv
  refine gives_unwrap hv fun u hu => ?_
  exact (reads_spanned ⟨n.text, n.span⟩ (fun _ => R.text) u hu).bind_ok rfl

/-- A literal is read by the reader of its value. -/
lemma gives_literal {value : α → Datum} {read : V → Except ReadError α} (s : Spanned α) {v : V}
    (h : R.Reads read (value s.value) s.value) (hv : R.Stands (s.literal name value) v) :
    Gives (Source.unwrap name v >>= readSpanned read) (R.Fits (s.literal name value) v) s :=
  gives_unwrap hv fun u hu => reads_spanned s h u hu

lemma reads_term (t : Term) : R.Reads readTerm (t.describe Name.datum) t := by
  intro v hv
  cases t with
  | name n => exact gives_tagged trivial hv fun u hu _ => (reads_name n u hu).bind_ok rfl
  | int l =>
      exact gives_tagged trivial hv fun u hu _ =>
        (gives_literal l (fun _ => R.integer) hu).bind_ok rfl
  | string l =>
      exact gives_tagged trivial hv fun u hu _ => (gives_literal l (fun _ => R.text) hu).bind_ok rfl
  | bool l =>
      exact gives_tagged trivial hv fun u hu _ => (gives_literal l (fun _ => R.flag) hu).bind_ok rfl

/-! ## Expressions

The reader of an expression may open one tag less in each operand.  It has enough of them because a
value always reaches further than the payload of its tag. -/

lemma gives_binary {read : V → Except ReadError Expr} {lhs rhs : Expr}
    {ops : List (Spanned Operator)} {span : Span} {v : V}
    (hlhs : ∀ u, Source.reach u ≤ Source.reach v → R.Stands lhs.datum u →
      Gives (read u) (R.Fits lhs.datum u) lhs)
    (hrhs : ∀ u, Source.reach u ≤ Source.reach v → R.Stands rhs.datum u →
      Gives (read u) (R.Fits rhs.datum u) rhs)
    (hv : R.Stands (binaryRecord lhs.datum ops rhs.datum span) v) :
    Gives (readBinary read v) (R.Fits (binaryRecord lhs.datum ops rhs.datum span) v)
      (.binary lhs ops rhs span) := by
  refine gives_fields hv rfl (by decide) fun parts hparts hreach => ?_
  simp only [List.forall_mem_cons] at hparts ⊢
  obtain ⟨hl, hops, hr, hspan, -⟩ := hparts
  refine gives_required hl (not_omissible (by decide)) (fun u hu => hlhs u (hreach _ u hu)) ?_
  refine gives_requiredItems hops (not_omissible (by decide))
    (fun _ _ op _ u _ => reads_spanned op (reads_operator op.value) u) ?_
  refine gives_required hr (not_omissible (by decide)) (fun u hu => hrhs u (hreach _ u hu)) ?_
  exact gives_spanField hspan rfl

lemma gives_paren {read : V → Except ReadError Expr} {inner : Expr} {span : Span} {v : V}
    (hinner : ∀ u, Source.reach u ≤ Source.reach v → R.Stands inner.datum u →
      Gives (read u) (R.Fits inner.datum u) inner)
    (hv : R.Stands (parenRecord inner.datum span) v) :
    Gives (readParen read v) (R.Fits (parenRecord inner.datum span) v) (.paren inner span) := by
  refine gives_fields hv rfl (by decide) fun parts hparts hreach => ?_
  simp only [List.forall_mem_cons] at hparts ⊢
  obtain ⟨hexpr, hspan, -⟩ := hparts
  refine gives_required hexpr (not_omissible (by decide)) (fun u hu => hinner u (hreach _ u hu)) ?_
  exact gives_spanField hspan rfl

lemma gives_exprWithin (e : Expr) {n : Nat} {v : V} (hv : R.Stands e.datum v)
    (hn : Source.reach v < n) : Gives (readExprWithin n v) (R.Fits e.datum v) e := by
  induction e generalizing n v with
  | term t =>
      obtain ⟨n, rfl⟩ : ∃ m, n = m + 1 := ⟨n - 1, by omega⟩
      exact gives_tagged t.definite_describe hv fun u hu _ => (reads_term t u hu).bind_ok rfl
  | binary lhs ops rhs span ihl ihr =>
      obtain ⟨n, rfl⟩ : ∃ m, n = m + 1 := ⟨n - 1, by omega⟩
      refine gives_tagged trivial hv fun u hu hreach => ?_
      exact gives_binary (fun w hw hl => ihl hl (by omega)) (fun w hw hr => ihr hr (by omega)) hu
  | paren inner span ih =>
      obtain ⟨n, rfl⟩ : ∃ m, n = m + 1 := ⟨n - 1, by omega⟩
      refine gives_tagged trivial hv fun u hu hreach => ?_
      exact gives_paren (fun w hw hi => ih hi (by omega)) hu

lemma reads_expr (e : Expr) : R.Reads readExpr e.datum e :=
  fun _ hv => gives_exprWithin e hv (Nat.lt_succ_self _)

/-! ## Statements -/

lemma reads_assignment (s : Assignment) :
    R.Reads readAssignment (s.describe Name.datum) s := by
  intro v hv
  refine gives_fields hv rfl (by decide) fun parts hparts _ => ?_
  simp only [List.forall_mem_cons] at hparts ⊢
  obtain ⟨hname, hexpr, hspan, -⟩ := hparts
  refine gives_required hname (not_omissible (by decide)) (fun u _ => reads_name s.name u) ?_
  refine gives_required hexpr (not_omissible (by decide)) (fun u _ => reads_expr s.expr u) ?_
  exact gives_spanField hspan rfl

lemma reads_init (init : Option Assignment) :
    R.Reads readInit (describeOption (Assignment.describe Name.datum) init) init := by
  intro v hv
  cases init with
  | none => exact (R.absent hv).bind_ok rfl
  | some s => exact gives_present trivial hv fun u hu => (reads_assignment s u hu).bind_ok rfl

lemma init_eq_none {init : Option Assignment}
    (h : Omissible "init" (describeOption (Assignment.describe Name.datum) init)) :
    none = init := by
  cases init with
  | none => rfl
  | some s => cases h.eq_absent

lemma reads_decl (s : Decl) : R.Reads readDecl (s.describe Name.datum) s := by
  intro v hv
  refine gives_fields hv rfl (by decide) fun parts hparts _ => ?_
  simp only [List.forall_mem_cons] at hparts ⊢
  obtain ⟨hname, hty, hinit, hspan, -⟩ := hparts
  refine gives_required hname (not_omissible (by decide)) (fun u _ => reads_name s.name u) ?_
  refine gives_required hty (not_omissible (by decide))
    (fun u _ => reads_spanned s.ty (reads_baseTy s.ty.value) u) ?_
  refine gives_orDefault hinit init_eq_none (fun u _ => reads_init s.init u) ?_
  exact gives_spanField hspan rfl

lemma gives_if {read : V → Except ReadError Stmt} {condition : Expr} {body : List Stmt}
    {span : Span} {v : V}
    (hbody : ∀ s ∈ body, ∀ u, Source.reach u ≤ Source.reach v → R.Stands s.datum u →
      Gives (read u) (R.Fits s.datum u) s)
    (hv : R.Stands (ifRecord condition.datum (body.map Stmt.datum) span) v) :
    Gives (readIf read v) (R.Fits (ifRecord condition.datum (body.map Stmt.datum) span) v)
      (.ifThen condition body span) := by
  refine gives_fields hv rfl (by decide) fun parts hparts hreach => ?_
  simp only [List.forall_mem_cons] at hparts ⊢
  obtain ⟨hcondition, hstmts, hspan, -⟩ := hparts
  refine gives_required hcondition (not_omissible (by decide))
    (fun u _ => reads_expr condition u) ?_
  refine gives_requiredItems hstmts (not_omissible (by decide))
    (fun w hw s hs u hu => hbody s hs u (Nat.le_trans hu (hreach _ w hw))) ?_
  exact gives_spanField hspan rfl

lemma gives_print {e : Expr} {span : Span} {v : V} (hv : R.Stands (printRecord e.datum span) v) :
    Gives (readPrint v) (R.Fits (printRecord e.datum span) v) (.print e span) := by
  refine gives_fields hv rfl (by decide) fun parts hparts _ => ?_
  simp only [List.forall_mem_cons] at hparts ⊢
  obtain ⟨hexpr, hspan, -⟩ := hparts
  refine gives_required hexpr (not_omissible (by decide)) (fun u _ => reads_expr e u) ?_
  exact gives_spanField hspan rfl

mutual

lemma gives_stmtWithin : ∀ (s : Stmt) {n : Nat} {v : V}, R.Stands s.datum v →
    Source.reach v < n → Gives (readStmtWithin n v) (R.Fits s.datum v) s
  | .decl d, n + 1, v, hv, _ =>
      gives_tagged trivial hv fun u hu _ => (reads_decl d u hu).bind_ok rfl
  | .assign a, n + 1, v, hv, _ =>
      gives_tagged trivial hv fun u hu _ => (reads_assignment a u hu).bind_ok rfl
  | .ifThen condition body span, n + 1, v, hv, hn => by
      refine gives_tagged trivial hv fun u hu hreach => ?_
      rw [Stmt.describeAll_eq_map] at hu ⊢
      exact gives_if (fun s hs w hw hstands => gives_stmtsWithin body s hs hstands (by omega)) hu
  | .print e span, n + 1, v, hv, _ => gives_tagged trivial hv fun u hu _ => gives_print hu

lemma gives_stmtsWithin : ∀ (ss : List Stmt), ∀ s ∈ ss, ∀ {n : Nat} {v : V}, R.Stands s.datum v →
    Source.reach v < n → Gives (readStmtWithin n v) (R.Fits s.datum v) s
  | [] => nofun
  | s :: ss => List.forall_mem_cons.2 ⟨gives_stmtWithin s, gives_stmtsWithin ss⟩

end

lemma reads_stmt (s : Stmt) : R.Reads readStmt s.datum s :=
  fun _ hv => gives_stmtWithin s hv (Nat.lt_succ_self _)

/-- **A program is read as itself.** Whatever stands for a program is read as that program, spans
included, if it fits; and if not, it is refused as too deep. -/
theorem reads_program (p : Program) : R.Reads readProgram p.datum p := by
  intro v hv
  rw [Program.datum, Program.describe, Stmt.describeAll_eq_map] at hv ⊢
  refine gives_fields hv rfl (by decide) fun parts hparts _ => ?_
  simp only [List.forall_mem_cons] at hparts ⊢
  obtain ⟨hstmts, hspan, -⟩ := hparts
  refine gives_requiredItems hstmts (not_omissible (by decide))
    (fun _ _ s _ u _ => reads_stmt s u) ?_
  exact gives_spanField hspan rfl

end Representation

end ScriptTyping
