import ScriptTyping.Proofs.Reading.Representation
import ScriptTyping.Proofs.Ron.Spelling
import ScriptTyping.Ron.Source
import ScriptTyping.Summary

/-!
# Trees survive RON

A program tree that has been written is read back as itself, or it is refused because it is nested
too deep.  The two halves meet in the document: what is written of a datum is a spelling of its
document (`spelled_compact`), and the document of a datum stands for the datum when it is read
(`Ron.representation`).

Writing and reading count levels differently.  A tag takes one level when it is written and two
when it is read, so there are trees that can be written and not read.  `readNeed` is the depth that
counts for reading, as `writeNeed` is the one that counts for writing.

Main statement: `Program.ofRon_of_write`.
-/

namespace ScriptTyping.Ron

/-! ## Depth -/

mutual

/-- The depth of a datum that counts when it is read. -/
def readNeed : Datum → Nat
  | .tag _ => 2
  | .tagged _ payload => readNeed payload + 2
  | .wrapper _ inner => readNeed inner + 1
  | .present inner => readNeed inner + 1
  | .list items => readNeedItems items
  | .record _ fields => readNeedFields fields
  | .table entries => readNeedFields entries
  | _ => 0

/-- The depth of a list with the given items. -/
def readNeedItems : List Datum → Nat
  | [] => 1
  | d :: rest => max (readNeed d + 2) (readNeedItems rest)

/-- The depth of a record or table with the given fields. -/
def readNeedFields : List (String × Datum) → Nat
  | [] => 1
  | (_, d) :: rest => max (readNeed d + 2) (readNeedFields rest)

end

lemma readNeedItems_le_iff {ds : List Datum} {room : Nat} :
    readNeedItems ds ≤ room ↔ 1 ≤ room ∧ ∀ d ∈ ds, readNeed d + 2 ≤ room := by
  induction ds with
  | nil => simp [readNeedItems]
  | cons d ds ih =>
      rw [readNeedItems, Nat.max_le, ih, List.forall_mem_cons]
      exact and_left_comm

lemma readNeedFields_le_iff {fs : List (String × Datum)} {room : Nat} :
    readNeedFields fs ≤ room ↔ 1 ≤ room ∧ ∀ f ∈ fs, readNeed f.2 + 2 ≤ room := by
  induction fs with
  | nil => simp [readNeedFields]
  | cons f fs ih =>
      rw [readNeedFields, Nat.max_le, ih, List.forall_mem_cons]
      exact and_left_comm

/-- What is inside a group that is not empty finds two levels less. -/
lemma forall_add_two_le_iff {α : Type} {need : α → Nat} {x : α} {xs : List α} {room : Nat} :
    (1 ≤ room ∧ ∀ y ∈ x :: xs, need y + 2 ≤ room) ↔
      2 ≤ room ∧ ∀ y ∈ x :: xs, need y ≤ room - 2 := by
  constructor
  · rintro ⟨-, h⟩
    have hx := h x List.mem_cons_self
    refine ⟨by omega, fun y hy => ?_⟩
    have hneed := h y hy
    omega
  · rintro ⟨htwo, h⟩
    refine ⟨by omega, fun y hy => ?_⟩
    have hneed := h y hy
    omega

lemma gives_spend (room levels : Nat) : Gives (spend room levels) (levels ≤ room) (room - levels) :=
  ⟨fun h => if_pos h, fun h => if_neg h⟩

/-! ## Documents stand for data -/

namespace Cursor

/-- The document of a datum, with the given levels left. -/
def ofDatum (d : Datum) (room : Nat) : Cursor := ⟨Value.ofDatum d, {}, room, false⟩

/-- A document stands for the datum it was made from. No extensions are enabled, and how many levels
are left does not matter. -/
def Stands (d : Datum) (c : Cursor) : Prop := ∃ room, c = ofDatum d room

/-- There are enough levels left. -/
def Fits (d : Datum) (c : Cursor) : Prop := readNeed d ≤ c.room

variable {d : Datum} {c : Cursor} {name : String}

/-- What takes no levels fits everywhere. -/
lemma gives_of_eq_ok {α : Type} {x : Except ReadError α} {a : α} (hx : x = .ok a)
    (hd : readNeed d = 0) : Gives x (Fits d c) a := by
  have hfits : Fits d c := by
    rw [Fits, hd]
    exact Nat.zero_le c.room
  exact ⟨fun _ => hx, fun h => absurd hfits h⟩

/-- What takes levels and holds a single value fits if that value does, with these levels less. -/
lemma fits_iff {e : Datum} {levels room : Nat} (hd : readNeed d = readNeed e + levels) :
    Fits d (ofDatum d room) ↔ levels ≤ room ∧ Fits e (ofDatum e (room - levels)) := by
  simp only [Fits, ofDatum, hd]
  omega

lemma hasField_ofFields {fs : List (String × Datum)} (h : name ∉ fs.map Prod.fst) :
    hasField name (Value.ofFields fs) = false := by
  induction fs with
  | nil => rfl
  | cons f fs ih =>
      rw [List.map_cons, List.mem_cons, not_or] at h
      have hne : f.1 ≠ name := fun heq => h.1 heq.symm
      have hrest := ih h.2
      rw [hasField] at hrest ⊢
      rw [Value.ofFields, List.any_cons, hrest]
      simp [hne]

lemma knownFields_ofFields {fs : List (String × Datum)} {known : List String}
    (hknown : ∀ f ∈ fs, f.1 ∈ known) (hnodup : (fs.map Prod.fst).Nodup) (outer room : Nat) :
    (ofDatum d outer).knownFields room known (Value.ofFields fs) =
      .ok (fs.map fun f => (f.1, ofDatum f.2 room)) := by
  induction fs with
  | nil => rfl
  | cons f fs ih =>
      rw [List.forall_mem_cons] at hknown
      rw [List.map_cons, List.nodup_cons] at hnodup
      rw [Value.ofFields, knownFields, if_pos (by simpa using hknown.1),
        hasField_ofFields hnodup.1, ih hknown.2 hnodup.2]
      rfl

lemma lookup_map_ofDatum {fs : List (String × Datum)} (hnodup : (fs.map Prod.fst).Nodup)
    {f : String × Datum} (hf : f ∈ fs) (room : Nat) :
    (fs.map fun f => (f.1, ofDatum f.2 room)).lookup f.1 = some (ofDatum f.2 room) := by
  rw [lookup_eq_some_iff_mem (by rwa [List.map_map])]
  exact List.mem_map_of_mem hf

lemma gives_fields {fs : List (String × Datum)} (h : Stands (.record name fs) c)
    (hnodup : (fs.map Prod.fst).Nodup) :
    ∃ parts p, (∀ f ∈ fs, Answers Stands parts f) ∧
      Gives (c.fields name (fs.map Prod.fst)) p parts ∧
      (p → ∀ n u, parts.lookup n = some u → u.room ≤ c.room) ∧
      (Fits (.record name fs) c ↔ p ∧ ∀ f ∈ fs, FieldFits Fits parts f) := by
  obtain ⟨room, rfl⟩ := h
  cases fs with
  | nil =>
      refine ⟨[], 1 ≤ room, nofun, (gives_spend room 1).bind_ok rfl, nofun, ?_⟩
      simp [Fits, readNeed, readNeedFields, ofDatum]
  | cons f fs =>
      refine ⟨(f :: fs).map fun f => (f.1, ofDatum f.2 (room - 2)), 2 ≤ room, ?_, ?_, ?_, ?_⟩
      · intro g hg
        exact Or.inl ⟨_, lookup_map_ofDatum hnodup hg _, _, rfl⟩
      · refine (gives_spend room 2).bind_ok ?_
        exact knownFields_ofFields (fun g hg => List.mem_map_of_mem hg) hnodup room _
      · intro _ n u hu
        obtain ⟨g, -, heq⟩ := List.mem_map.1 (mem_of_lookup hu)
        obtain ⟨-, rfl⟩ := Prod.mk.inj heq
        exact Nat.sub_le room 2
      · rw [Fits, readNeed, readNeedFields_le_iff, ofDatum, forall_add_two_le_iff]
        refine and_congr_right fun _ => forall₂_congr fun g hg => ?_
        rw [FieldFits, lookup_map_ofDatum hnodup hg]
        simp [Fits, ofDatum]

lemma map_inside_ofItems (ds : List Datum) (outer room : Nat) :
    (Value.ofItems ds).map ((ofDatum d outer).inside room) = ds.map fun e => ofDatum e room := by
  induction ds with
  | nil => rfl
  | cons e ds ih =>
      rw [Value.ofItems, List.map_cons, ih]
      rfl

lemma gives_items {ds : List Datum} (h : Stands (.list ds) c) :
    ∃ us p, List.Forall₂ Stands ds us ∧ Gives c.items p us ∧ (p → ∀ u ∈ us, u.room ≤ c.room) ∧
      (Fits (.list ds) c ↔ p ∧ List.Forall₂ Fits ds us) := by
  obtain ⟨room, rfl⟩ := h
  cases ds with
  | nil =>
      refine ⟨[], 1 ≤ room, .nil, (gives_spend room 1).bind_ok rfl, nofun, ?_⟩
      simp [Fits, readNeed, readNeedItems, ofDatum]
  | cons d ds =>
      refine ⟨(d :: ds).map fun d => ofDatum d (room - 2), 2 ≤ room, ?_, ?_, ?_, ?_⟩
      · rw [List.forall₂_map_right_iff, List.forall₂_same]
        exact fun e _ => ⟨_, rfl⟩
      · refine (gives_spend room 2).bind_ok ?_
        exact congrArg Except.ok (map_inside_ofItems (d :: ds) room _)
      · intro _ u hu
        obtain ⟨e, -, rfl⟩ := List.mem_map.1 hu
        exact Nat.sub_le room 2
      · rw [Fits, readNeed, readNeedItems_le_iff, ofDatum, forall_add_two_le_iff,
          List.forall₂_map_right_iff, List.forall₂_same]
        rfl

end Cursor

/-- **Documents stand for data.** The answers of a document are those that its datum calls for. -/
def representation : Representation Cursor where
  Stands := Cursor.Stands
  Fits := Cursor.Fits
  natural := by
    rintro w v ⟨room, rfl⟩
    refine Cursor.gives_of_eq_ok ?_ rfl
    change Cursor.natural _ = _
    simp only [Cursor.natural, Cursor.ofDatum, Value.ofDatum, natural?_repr]
  integer := by
    rintro w v ⟨room, rfl⟩
    refine Cursor.gives_of_eq_ok ?_ rfl
    change Cursor.integer _ = _
    simp only [Cursor.integer, Cursor.ofDatum, Value.ofDatum, integer?_repr]
  text := by
    rintro s v ⟨room, rfl⟩
    exact Cursor.gives_of_eq_ok rfl rfl
  flag := by
    rintro b v ⟨room, rfl⟩
    cases b with
    | false => exact Cursor.gives_of_eq_ok rfl rfl
    | true => exact Cursor.gives_of_eq_ok rfl rfl
  tag := by
    rintro name v ⟨room, rfl⟩
    exact (gives_spend room 2).bind_ok rfl
  tagged := by
    rintro name d v - ⟨room, rfl⟩
    refine ⟨.ofDatum d (room - 2), 2 ≤ room, ⟨_, rfl⟩, (gives_spend room 2).bind_ok rfl, ?_,
      Cursor.fits_iff rfl⟩
    exact Nat.sub_lt_self Nat.two_pos
  unwrap := by
    rintro name d v ⟨room, rfl⟩
    exact ⟨.ofDatum d (room - 1), 1 ≤ room, ⟨_, rfl⟩, (gives_spend room 1).bind_ok rfl,
      Cursor.fits_iff rfl⟩
  absent := by
    rintro v ⟨room, rfl⟩
    exact Cursor.gives_of_eq_ok rfl rfl
  present := by
    rintro d v - ⟨room, rfl⟩
    exact ⟨.ofDatum d (room - 1), 1 ≤ room, ⟨_, rfl⟩, (gives_spend room 1).bind_ok rfl,
      Cursor.fits_iff rfl⟩
  items := Cursor.gives_items
  fields := Cursor.gives_fields

/-! ## Names in trees -/

lemma wellNamed_position (p : Position) : WellNamed p.datum :=
  ⟨by decide, trivial, by decide, trivial, trivial⟩

lemma wellNamed_span (s : Span) : WellNamed s.datum :=
  ⟨by decide, wellNamed_position s.start, by decide, wellNamed_position s.stop, trivial⟩

lemma wellNamed_spanned {α : Type} {value : α → Datum} (s : Spanned α)
    (h : WellNamed (value s.value)) : WellNamed (s.describe value) :=
  ⟨by decide, h, by decide, wellNamed_span s.span, trivial⟩

lemma wellNamed_literal {α : Type} (value : α → Datum) (h : ∀ a, WellNamed (value a))
    (wrapper : String) (s : Spanned α) : WellNamed (s.literal wrapper value) :=
  wellNamed_spanned s (h s.value)

lemma wellNamed_name (n : Name) : WellNamed n.datum :=
  wellNamed_literal .text (fun _ => trivial) "Name" ⟨n.text, n.span⟩

lemma wellNamed_term (t : Term) : WellNamed (t.describe Name.datum) := by
  cases t with
  | name n => exact ⟨by decide, wellNamed_name n⟩
  | int l =>
      exact ⟨by decide, wellNamed_literal (fun n => .number n.toInt) (fun _ => trivial) "IntLit" l⟩
  | string l => exact ⟨by decide, wellNamed_literal .text (fun _ => trivial) "StringLit" l⟩
  | bool l => exact ⟨by decide, wellNamed_literal .flag (fun _ => trivial) "BoolLit" l⟩

lemma wellNamed_operator (op : Operator) : WellNamed op.datum := by
  change isPlainWord op.tagName.toList
  cases op <;> decide

lemma wellNamed_baseTy (b : BaseTy) : WellNamed b.datum := by
  change isPlainWord b.tagName.toList
  cases b <;> decide

lemma wellNamedItems_map {α : Type} {describe : α → Datum} {as : List α}
    (h : ∀ a ∈ as, WellNamed (describe a)) : WellNamedItems (as.map describe) := by
  induction as with
  | nil => trivial
  | cons a as ih =>
      rw [List.forall_mem_cons] at h
      exact ⟨h.1, ih h.2⟩

lemma wellNamed_expr (e : Expr) : WellNamed e.datum := by
  induction e with
  | term t => exact ⟨by decide, wellNamed_term t⟩
  | binary lhs ops rhs span ihl ihr =>
      have hops : WellNamed (.list (ops.map (·.describe Operator.datum))) :=
        wellNamedItems_map fun op _ => wellNamed_spanned op (wellNamed_operator op.value)
      exact ⟨by decide, by decide, ihl, by decide, hops, by decide, ihr, by decide,
        wellNamed_span span, trivial⟩
  | paren inner span ih =>
      exact ⟨by decide, by decide, ih, by decide, wellNamed_span span, trivial⟩

lemma wellNamed_assignment (s : Assignment) : WellNamed (s.describe Name.datum) :=
  ⟨by decide, wellNamed_name s.name, by decide, wellNamed_expr s.expr, by decide,
    wellNamed_span s.span, trivial⟩

lemma wellNamed_init (init : Option Assignment) :
    WellNamed (describeOption (Assignment.describe Name.datum) init) := by
  cases init with
  | none => trivial
  | some s => exact wellNamed_assignment s

lemma wellNamed_decl (s : Decl) : WellNamed (s.describe Name.datum) :=
  ⟨by decide, wellNamed_name s.name, by decide,
    wellNamed_spanned s.ty (wellNamed_baseTy s.ty.value), by decide, wellNamed_init s.init,
    by decide, wellNamed_span s.span, trivial⟩

mutual

lemma wellNamed_stmt : ∀ s : Stmt, WellNamed s.datum
  | .decl d => ⟨by decide, wellNamed_decl d⟩
  | .assign a => ⟨by decide, wellNamed_assignment a⟩
  | .ifThen condition body span =>
      ⟨by decide, by decide, wellNamed_expr condition, by decide, wellNamed_stmts body, by decide,
        wellNamed_span span, trivial⟩
  | .print e span =>
      ⟨by decide, by decide, wellNamed_expr e, by decide, wellNamed_span span, trivial⟩

lemma wellNamed_stmts : ∀ ss : List Stmt, WellNamedItems (Stmt.describeAll Name.datum ss)
  | [] => trivial
  | s :: ss => ⟨wellNamed_stmt s, wellNamed_stmts ss⟩

end

lemma wellNamed_program (p : Program) : WellNamed p.datum :=
  ⟨by decide, wellNamed_stmts p.stmts, by decide, wellNamed_span p.span, trivial⟩

end ScriptTyping.Ron

namespace ScriptTyping

/-- The compact text of a program, however deep it is. -/
def Program.compactText (p : Program) : String :=
  String.ofList (Ron.Value.ofDatum p.datum).compact

lemma Program.eq_compactText {p : Program} {s : String} (h : Ron.write p.datum = some s) :
    p.compactText = s := by
  unfold Ron.write at h
  split at h
  · exact Option.some.inj h
  · cases h

/-- The compact text of a program is read as the program, if it is not too deep. -/
theorem Program.gives_ofRon (p : Program) :
    Gives (Program.ofRon p.compactText) (Ron.readNeed p.datum ≤ Ron.depthLimit) p := by
  have hspelled := Ron.spelled_compact p.datum (Ron.wellNamed_program p)
  have hread : Program.ofRon p.compactText =
      readProgram (Ron.Cursor.ofDatum p.datum Ron.depthLimit) := by
    rw [Program.ofRon, Ron.read, Program.compactText, hspelled.parse_ofList]
    rfl
  rw [hread]
  exact Ron.representation.reads_program p _ ⟨_, rfl⟩

/-- **A program tree survives RON.** If a program can be written, then what is written is read as
exactly that program, spans included, unless the program is too deep to be read. -/
theorem Program.ofRon_of_write (p : Program) (s : String) (h : Ron.write p.datum = some s) :
    Program.ofRon s =
      if Ron.readNeed p.datum ≤ Ron.depthLimit then .ok p else .error .tooDeep := by
  obtain rfl := Program.eq_compactText h
  split
  · next hfits => exact p.gives_ofRon.ok hfits
  · next hfits => exact p.gives_ofRon.tooDeep hfits

/-- A span at the two ends of what a position can hold. -/
def farSpan : Span := ⟨⟨0, 18446744073709551615⟩, ⟨18446744073709551615, 0⟩⟩

/-- A program with an initializer, a node without operators and a node with two of them, the least
and the greatest number, and a text that needs all kinds of escapes. -/
def oddProgram : Program :=
  let quoted := "\"'\\\n\r\t\x00\x07\u200b é"
  let least := Expr.term (.int ⟨Int64.minValue, farSpan⟩)
  let greatest := Expr.term (.int ⟨Int64.maxValue, .origin⟩)
  ⟨[.decl ⟨⟨quoted, farSpan⟩, ⟨.string, .origin⟩,
      some ⟨⟨"", .origin⟩, .term (.string ⟨quoted, farSpan⟩), farSpan⟩, .origin⟩,
    .decl ⟨⟨"None", farSpan⟩, ⟨.bool, .origin⟩, none, .origin⟩,
    .ifThen (.binary least [] greatest .origin)
      [.print (.binary least [⟨.add, farSpan⟩, ⟨.notEquals, .origin⟩] greatest farSpan) .origin]
      farSpan],
    farSpan⟩

/-- A truth value in parentheses, as many as asked for. -/
def parenthesized : Nat → Expr
  | 0 => .term (.bool ⟨true, .origin⟩)
  | n + 1 => .paren (parenthesized n) .origin

/-- Thirty pairs of parentheses can be written, but they are too deep to be read. -/
theorem Program.ofRon_of_write_odd_and_deep :
    (∃ s, Ron.write oddProgram.datum = some s ∧ Program.ofRon s = .ok oddProgram) ∧
      ∃ s, Ron.write (Program.mk [.print (parenthesized 30) .origin] .origin).datum = some s ∧
        Program.ofRon s = .error .tooDeep := by
  constructor
  · have hwrite : Ron.write oddProgram.datum = some _ := if_pos (by decide)
    have hread := Program.ofRon_of_write oddProgram _ hwrite
    rw [if_pos (by decide)] at hread
    exact ⟨_, hwrite, hread⟩
  · have hwrite : Ron.write (Program.mk [.print (parenthesized 30) .origin] .origin).datum =
        some _ := if_pos (by decide +kernel)
    have hread := Program.ofRon_of_write _ _ hwrite
    rw [if_neg (by decide +kernel)] at hread
    exact ⟨_, hwrite, hread⟩

end ScriptTyping
