import ScriptTyping.Json.Source
import ScriptTyping.Proofs.Reading.Representation

/-!
# Trees survive JSON

A part of a program tree that has been put into JSON is read back as itself.  This stays so if some
of its fields are taken out of their objects afterwards: an end of a span that is at line 1, column
1, a span with both ends there, and an initializer that is `null`.  It also stays so if objects get
fields that their records do not know, and if their fields are put into another order.

`Edited` says which JSON values such changes lead to, anywhere in a value and independently of each
other.  It follows the datum, because only the datum tells the object of a record from that of a
tag, and which fields the record knows.  The JSON value of a datum is one of them
(`edited_ofDatum`), and each of them answers as the datum calls for (`Json.representation`).

Main statement: `Json.read_edited`, for every type of node.
-/

namespace ScriptTyping.Json

/-! ## Edited values -/

/-- Fields of an object that stand for fields of a record, in the same order. Only those that may be
left out can be missing. -/
inductive Kept (stands : Datum → Json → Prop) :
    List (String × Datum) → List (String × Json) → Prop
  | nil : Kept stands [] []
  | keep {name : String} {d : Datum} {j : Json} {fs : List (String × Datum)}
      {kept : List (String × Json)} (h : stands d j) (hrest : Kept stands fs kept) :
      Kept stands ((name, d) :: fs) ((name, j) :: kept)
  | drop {name : String} {d : Datum} {fs : List (String × Datum)} {kept : List (String × Json)}
      (h : Omissible name d) (hrest : Kept stands fs kept) : Kept stands ((name, d) :: fs) kept

/-- The value is that of the datum, up to fields of records that are left out, fields that are added
and the order of fields. -/
inductive Edited : Datum → Json → Prop
  | number (n : Int) : Edited (.number n) (.int n)
  | text (s : String) : Edited (.text s) (.str s)
  | flag (b : Bool) : Edited (.flag b) (.bool b)
  | tag (name : String) : Edited (.tag name) (.str name)
  | tagged {name : String} {d : Datum} {j : Json} (h : Edited d j) :
      Edited (.tagged name d) (.obj [(name, j)])
  /-- What is kept and what is added may stand in any order. -/
  | record {name : String} {fs : List (String × Datum)} {kept added js : List (String × Json)}
      (hkept : Kept Edited fs kept) (hadded : ∀ e ∈ added, e.1 ∉ fs.map Prod.fst)
      (hjs : js.Perm (kept ++ added)) : Edited (.record name fs) (.obj js)
  | wrapper {name : String} {d : Datum} {j : Json} (h : Edited d j) : Edited (.wrapper name d) j
  | list {ds : List Datum} {js : List Json} (h : List.Forall₂ Edited ds js) :
      Edited (.list ds) (.arr js)
  | absent : Edited .absent .null
  | present {d : Datum} {j : Json} (h : Edited d j) : Edited (.present d) j
  | table (es : List (String × Datum)) : Edited (.table es) (.obj (ofFields es))

/-- Nothing has to be added. -/
lemma edited_of_kept {name : String} {fs : List (String × Datum)} {kept : List (String × Json)}
    (h : Kept Edited fs kept) : Edited (.record name fs) (.obj kept) :=
  .record h (List.forall_mem_nil _) (by rw [List.append_nil])

mutual

/-- Nothing has to be edited. -/
lemma edited_ofDatum : ∀ d : Datum, Edited d (ofDatum d)
  | .number n => .number n
  | .text s => .text s
  | .flag b => .flag b
  | .tag name => .tag name
  | .tagged _ d => .tagged (edited_ofDatum d)
  | .record _ fs => edited_of_kept (kept_ofFields fs)
  | .wrapper _ d => .wrapper (edited_ofDatum d)
  | .list ds => .list (edited_ofItems ds)
  | .absent => .absent
  | .present d => .present (edited_ofDatum d)
  | .table es => .table es

lemma edited_ofItems : ∀ ds : List Datum, List.Forall₂ Edited ds (ofItems ds)
  | [] => .nil
  | d :: ds => .cons (edited_ofDatum d) (edited_ofItems ds)

lemma kept_ofFields : ∀ fs : List (String × Datum), Kept Edited fs (ofFields fs)
  | [] => .nil
  | (_, d) :: fs => .keep (edited_ofDatum d) (kept_ofFields fs)

end

/-- What is not optional is not written as `null`. -/
lemma Edited.ne_null {d : Datum} {j : Json} (h : Edited d j) (hd : d.Definite) : j ≠ .null := by
  fun_induction Datum.Definite d with
  | case1 => cases hd
  | case2 => cases hd
  | case3 name inner ih =>
      cases h with
      | wrapper h => exact ih h hd
  | case4 d habsent hpresent hwrapper =>
      rintro rfl
      cases h with
      | wrapper => exact hwrapper _ _ rfl
      | absent => exact habsent rfl
      | present => exact hpresent _ rfl

/-! ## Fields -/

variable {stands : Datum → Json → Prop} {name : String} {fs : List (String × Datum)}
  {kept added js : List (String × Json)} {known : List String}

lemma Kept.sublist (h : Kept stands fs kept) : (kept.map Prod.fst).Sublist (fs.map Prod.fst) := by
  induction h with
  | nil => exact .slnil
  | keep _ _ ih => exact ih.cons_cons _
  | drop _ _ ih => exact ih.cons _

/-- Each field of the record is kept, or it is missing and may be left out. -/
lemma Kept.kept_or_dropped (h : Kept stands fs kept) (hnodup : (fs.map Prod.fst).Nodup) :
    ∀ f ∈ fs, (∃ j, (f.1, j) ∈ kept ∧ stands f.2 j) ∨
      f.1 ∉ kept.map Prod.fst ∧ Omissible f.1 f.2 := by
  induction h with
  | nil => nofun
  | @keep name d j fs kept hd hrest ih =>
      rw [List.map_cons, List.nodup_cons] at hnodup
      rw [List.forall_mem_cons]
      refine ⟨.inl ⟨j, List.mem_cons_self, hd⟩, fun f hf => ?_⟩
      refine (ih hnodup.2 f hf).imp ?_ ?_
      · rintro ⟨i, hi, hstands⟩
        exact ⟨i, List.mem_cons_of_mem _ hi, hstands⟩
      · rintro ⟨hmissing, homit⟩
        have hne : f.1 ≠ name := fun heq => hnodup.1 (List.mem_map.2 ⟨f, hf, heq⟩)
        exact ⟨List.not_mem_cons_of_ne_of_not_mem hne hmissing, homit⟩
  | @drop name d fs kept homit hrest ih =>
      rw [List.map_cons, List.nodup_cons] at hnodup
      rw [List.forall_mem_cons]
      exact ⟨.inr ⟨fun hmem => hnodup.1 (hrest.sublist.subset hmem), homit⟩, ih hnodup.2⟩

/-- The known fields of an object are found if they are all different. -/
lemma knownFields_eq_filter (h : ((js.filter fun e => known.contains e.1).map Prod.fst).Nodup) :
    knownFields known js = .ok (js.filter fun e => known.contains e.1) := by
  induction js with
  | nil => rfl
  | cons e js ih =>
      obtain ⟨name, j⟩ := e
      by_cases hname : known.contains name
      · rw [List.filter_cons, if_pos hname] at h ⊢
        rw [List.map_cons, List.nodup_cons] at h
        have hfield : hasField name js = false := by
          rw [hasField, List.any_eq_false]
          intro e he heq
          have hsame : e.1 = name := beq_iff_eq.1 heq
          exact h.1 (List.mem_map.2 ⟨e, List.mem_filter.2 ⟨he, hsame ▸ hname⟩, hsame⟩)
        rw [knownFields, if_pos hname, hfield, ih h.2]
        rfl
      · rw [List.filter_cons, if_neg hname] at h ⊢
        rw [knownFields, if_neg hname, ih h]

/-- What an object has of the fields that its record knows is what was kept. -/
lemma perm_kept (hkept : Kept stands fs kept) (hadded : ∀ e ∈ added, e.1 ∉ fs.map Prod.fst)
    (hjs : js.Perm (kept ++ added)) :
    (js.filter fun e => (fs.map Prod.fst).contains e.1).Perm kept := by
  have hknown : kept.filter (fun e => (fs.map Prod.fst).contains e.1) = kept := by
    rw [List.filter_eq_self]
    exact fun e he => List.contains_iff_mem.2 (hkept.sublist.subset (List.mem_map_of_mem he))
  have hunknown : added.filter (fun e => (fs.map Prod.fst).contains e.1) = [] := by
    rw [List.filter_eq_nil_iff]
    exact fun e he hmem => hadded e he (List.contains_iff_mem.1 hmem)
  have hfilter := hjs.filter fun e => (fs.map Prod.fst).contains e.1
  rwa [List.filter_append, hknown, hunknown, List.append_nil] at hfilter

lemma depth_le_depthItems {js : List Json} : ∀ j ∈ js, j.depth ≤ depthItems js := by
  induction js with
  | nil => nofun
  | cons i js ih =>
      rw [List.forall_mem_cons, depthItems]
      exact ⟨Nat.le_max_left _ _, fun j hj => Nat.le_trans (ih j hj) (Nat.le_max_right _ _)⟩

lemma depth_le_depthFields : ∀ e ∈ js, e.2.depth ≤ depthFields js := by
  induction js with
  | nil => nofun
  | cons i js ih =>
      rw [List.forall_mem_cons, depthFields]
      exact ⟨Nat.le_max_left _ _, fun e he => Nat.le_trans (ih e he) (Nat.le_max_right _ _)⟩

/-- **An object answers for the fields of its record**, with what is kept of them. -/
lemma fields_of_edited {j : Json} (h : Edited (.record name fs) j)
    (hnodup : (fs.map Prod.fst).Nodup) :
    ∃ parts, (∀ f ∈ fs, Answers Edited parts f) ∧ fields (fs.map Prod.fst) j = .ok parts ∧
      ∀ n u, parts.lookup n = some u → u.depth ≤ j.depth := by
  cases h with
  | @record _ _ kept added js hkept hadded hjs =>
      have hparts := perm_kept hkept hadded hjs
      have hnames := (hparts.map Prod.fst).nodup_iff.2 (hnodup.sublist hkept.sublist)
      refine ⟨_, fun f hf => ?_, knownFields_eq_filter hnames, fun n u hu => ?_⟩
      · rcases hkept.kept_or_dropped hnodup f hf with ⟨i, hi, hstands⟩ | ⟨hmissing, homit⟩
        · exact .inl ⟨i, (lookup_eq_some_iff_mem hnames).2 (hparts.mem_iff.2 hi), hstands⟩
        · refine .inr ⟨Option.eq_none_iff_forall_ne_some.2 fun u hu => hmissing ?_, homit⟩
          exact List.mem_map_of_mem (hparts.mem_iff.1 (mem_of_lookup hu))
      · have hmem := (List.mem_filter.1 (mem_of_lookup hu)).1
        exact Nat.le_trans (depth_le_depthFields _ hmem) (Nat.le_succ _)

/-! ## Edited values stand for data -/

lemma natural_toNat (w : UInt64) : natural (.int w.toNat) = .ok w := by
  change (Word.ofNat? w.toNat).elim (Except.error ReadError.shape) Except.ok = .ok w
  rw [Word.ofNat?_eq_some_iff.2 rfl, Option.elim_some]

lemma integer_toInt (w : Int64) : integer (.int w.toInt) = .ok w := by
  rw [integer, Word.ofInt?_eq_some_iff.2 rfl, Option.elim_some]

/-- A payload that is not `null` is found under its tag. -/
lemma tag_of_ne_null {j : Json} (h : j ≠ .null) : tag (.obj [(name, j)]) = .ok (name, some j) := by
  cases j with
  | null => exact absurd rfl h
  | _ => rfl

lemma optional_of_ne_null {j : Json} (h : j ≠ .null) : Source.optional j = .ok (some j) := by
  cases j with
  | null => exact absurd rfl h
  | _ => rfl

lemma gives_of_eq_ok {α : Type} {x : Except ReadError α} {a : α} (h : x = .ok a) :
    Gives x True a :=
  h ▸ gives_pure a

/-- **Edited values stand for data.** Their answers are those that the datum calls for, and no value
is too deep. -/
def representation : Representation Json where
  Stands := Edited
  Fits _ _ := True
  natural := by
    rintro w v ⟨⟩
    exact gives_of_eq_ok (natural_toNat w)
  integer := by
    rintro w v ⟨⟩
    exact gives_of_eq_ok (integer_toInt w)
  text := by
    rintro s v ⟨⟩
    exact gives_of_eq_ok rfl
  flag := by
    rintro b v ⟨⟩
    exact gives_of_eq_ok rfl
  tag := by
    rintro name v ⟨⟩
    exact gives_of_eq_ok rfl
  tagged := by
    intro name d v hd h
    cases h with
    | @tagged _ _ j h =>
        refine ⟨j, True, h, gives_of_eq_ok (tag_of_ne_null (h.ne_null hd)), fun _ => ?_, by simp⟩
        exact Nat.lt_succ_of_le (depth_le_depthFields (name, j) List.mem_cons_self)
  unwrap := by
    intro name d v h
    cases h with
    | wrapper h => exact ⟨v, True, h, gives_of_eq_ok rfl, by simp⟩
  absent := by
    rintro v ⟨⟩
    exact gives_of_eq_ok rfl
  present := by
    intro d v hd h
    cases h with
    | present h => exact ⟨v, True, h, gives_of_eq_ok (optional_of_ne_null (h.ne_null hd)), by simp⟩
  items := by
    intro ds v h
    cases h with
    | @list _ js h =>
        refine ⟨js, True, h, gives_of_eq_ok rfl, fun _ j hj => ?_, ?_⟩
        · exact Nat.le_trans (depth_le_depthItems j hj) (Nat.le_succ _)
        · exact iff_of_true trivial ⟨trivial, h.imp fun _ _ _ => trivial⟩
  fields := by
    intro name fs v h hnodup
    obtain ⟨parts, hanswers, hfields, hreach⟩ := fields_of_edited h hnodup
    exact ⟨parts, True, hanswers, gives_of_eq_ok hfields, fun _ => hreach, by simp [FieldFits]⟩

/-! ## Parts of trees -/

/-- A value of one of the types that trees are made of, with its written form and the reader of the
type. The fields of binary nodes, parentheses, conditionals and print statements have readers of
their own. -/
inductive TreePart : {α : Type} → α → Datum → (Json → Except ReadError α) → Prop
  | natural (w : UInt64) : TreePart w (.number w.toNat) Source.natural
  | integer (w : Int64) : TreePart w (.number w.toInt) Source.integer
  | text (s : String) : TreePart s (.text s) Source.text
  | flag (b : Bool) : TreePart b (.flag b) Source.flag
  | position (p : Position) : TreePart p p.datum readPosition
  | span (s : Span) : TreePart s s.datum readSpan
  | spanned {α : Type} {value : α → Datum} {read : Json → Except ReadError α} (s : Spanned α)
      (h : TreePart s.value (value s.value) read) : TreePart s (s.describe value) (readSpanned read)
  | baseTy (b : BaseTy) : TreePart b b.datum readBaseTy
  | operator (op : Operator) : TreePart op op.datum readOperator
  | name (n : Name) : TreePart n n.datum readName
  | intLit (l : Spanned Int64) : TreePart l (intLiteral l) readIntLiteral
  | stringLit (l : Spanned String) : TreePart l (stringLiteral l) readStringLiteral
  | boolLit (l : Spanned Bool) : TreePart l (boolLiteral l) readBoolLiteral
  | term (t : Term) : TreePart t (t.describe Name.datum) readTerm
  | binary (lhs : Expr) (ops : List (Spanned Operator)) (rhs : Expr) (span : Span) :
      TreePart (.binary lhs ops rhs span) (binaryRecord lhs.datum ops rhs.datum span)
        (readBinary readExpr)
  | paren (inner : Expr) (span : Span) :
      TreePart (.paren inner span) (parenRecord inner.datum span) (readParen readExpr)
  | expr (e : Expr) : TreePart e e.datum readExpr
  | assignment (s : Assignment) : TreePart s (s.describe Name.datum) readAssignment
  | decl (s : Decl) : TreePart s (s.describe Name.datum) readDecl
  | ifThen (condition : Expr) (body : List Stmt) (span : Span) :
      TreePart (.ifThen condition body span)
        (ifRecord condition.datum (body.map Stmt.datum) span) (readIf readStmt)
  | print (e : Expr) (span : Span) :
      TreePart (.print e span) (printRecord e.datum span) readPrint
  | stmt (s : Stmt) : TreePart s s.datum readStmt
  | program (p : Program) : TreePart p p.datum readProgram

open ScriptTyping.Representation

lemma TreePart.reads {α : Type} {x : α} {d : Datum} {read : Json → Except ReadError α}
    (h : TreePart x d read) : representation.Reads read d x := by
  induction h with
  | natural w => exact fun _ => representation.natural
  | integer w => exact fun _ => representation.integer
  | text s => exact fun _ => representation.text
  | flag b => exact fun _ => representation.flag
  | position p => exact reads_position p
  | span s => exact reads_span s
  | spanned s _ ih => exact reads_spanned s ih
  | baseTy b => exact reads_baseTy b
  | operator op => exact reads_operator op
  | name n => exact reads_name n
  | intLit l => exact fun _ => gives_literal l fun _ => representation.integer
  | stringLit l => exact fun _ => gives_literal l fun _ => representation.text
  | boolLit l => exact fun _ => gives_literal l fun _ => representation.flag
  | term t => exact reads_term t
  | binary lhs ops rhs span =>
      exact fun _ => gives_binary (fun u _ => reads_expr lhs u) fun u _ => reads_expr rhs u
  | paren inner span => exact fun _ => gives_paren fun u _ => reads_expr inner u
  | expr e => exact reads_expr e
  | assignment s => exact reads_assignment s
  | decl s => exact reads_decl s
  | ifThen condition body span => exact fun _ => gives_if fun s _ u _ => reads_stmt s u
  | print e span => exact fun _ => gives_print
  | stmt s => exact reads_stmt s
  | program p => exact reads_program p

/-- **Reading undoes writing, whatever is left out or added.**

The JSON value of a part of a tree is read as exactly that part.  So is every value that is left of
it after fields with default values have been taken out of its objects, unknown fields have been
added and fields have been moved, at any depth. -/
theorem read_edited {α : Type} {x : α} {d : Datum} {read : Json → Except ReadError α}
    (h : TreePart x d read) :
    read (ofDatum d) = .ok x ∧ ∀ j, Edited d j → read j = .ok x := by
  have hread : ∀ j, Edited d j → read j = .ok x := fun j hj => (h.reads j hj).ok trivial
  exact ⟨hread _ (edited_ofDatum d), hread⟩

/-- A declaration without initializer.  All of its places are at line 1, column 1, up to the end of
its span. -/
def sparseDecl : Decl where
  name := ⟨"a", ⟨⟨1, 1⟩, ⟨1, 1⟩⟩⟩
  ty := ⟨.bool, ⟨⟨1, 1⟩, ⟨1, 1⟩⟩⟩
  init := none
  span := ⟨⟨1, 1⟩, ⟨2, 7⟩⟩

/-- Its value without initializer, with as little as possible of the spans. Two fields are added
that belong to other records, and a position has its fields in the other order. -/
def sparseJson : Json :=
  .obj [
    ("start", .int 3),
    ("name", .obj [("value", .str "a")]),
    ("ty", .obj [("value", .str "Bool"), ("span", .obj [("line", .str "")])]),
    ("span", .obj [("end", .obj [("col", .int 7), ("line", .int 2)])])]

theorem readDecl_sparseJson :
    Edited (sparseDecl.describe Name.datum) sparseJson ∧
      readDecl sparseJson = .ok {
        name := ⟨"a", ⟨{ line := 1, col := 1 }, { line := 1, col := 1 }⟩⟩
        ty := ⟨.bool, ⟨{ line := 1, col := 1 }, { line := 1, col := 1 }⟩⟩
        init := none
        span := ⟨{ line := 1, col := 1 }, { line := 2, col := 7 }⟩ } := by
  have hstart : Omissible "start" (Position.mk 1 1).datum := .inr (.inl ⟨.inl rfl, rfl⟩)
  have hend : Omissible "end" (Position.mk 1 1).datum := .inr (.inl ⟨.inr rfl, rfl⟩)
  have hname : Edited sparseDecl.name.datum (.obj [("value", .str "a")]) :=
    .wrapper (edited_of_kept (.keep (.text "a") (.drop (.inl ⟨rfl, rfl⟩) .nil)))
  have hempty : Edited sparseDecl.ty.span.datum (.obj [("line", .str "")]) :=
    .record (.drop hstart (.drop hend .nil)) (List.forall_mem_singleton.2 (by decide)) .rfl
  have hty : Edited (sparseDecl.ty.describe BaseTy.datum)
      (.obj [("value", .str "Bool"), ("span", .obj [("line", .str "")])]) :=
    edited_of_kept (.keep (.tag "Bool") (.keep hempty .nil))
  have hstop : Edited (Position.mk 2 7).datum (.obj [("col", .int 7), ("line", .int 2)]) :=
    .record (.keep (.number 2) (.keep (.number 7) .nil)) (List.forall_mem_nil _) (.swap _ _ _)
  have hspan : Edited sparseDecl.span.datum
      (.obj [("end", .obj [("col", .int 7), ("line", .int 2)])]) :=
    edited_of_kept (.drop hstart (.keep hstop .nil))
  have hedited : Edited (sparseDecl.describe Name.datum) sparseJson :=
    .record (.keep hname (.keep hty (.drop (.inr (.inr ⟨rfl, rfl⟩)) (.keep hspan .nil))))
      (List.forall_mem_singleton.2 (by decide)) (List.perm_append_singleton _ _).symm
  exact ⟨hedited, (read_edited (.decl sparseDecl)).2 sparseJson hedited⟩

end ScriptTyping.Json
