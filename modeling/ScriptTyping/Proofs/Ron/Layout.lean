import ScriptTyping.Proofs.Ron.Spelling

/-!
# Documents over several lines

`Value.pretty` puts the parts of a group on lines of their own.  What it adds to the compact form is
blanks and a comma after the last part, all of them at places where the grammar of `Spelled` lets
them stand.

Before a part there are the blanks that indent it, and in the grammar they belong to what comes
before: to the opening of the group for the first part, and to the comma for the others.  The
statements about the parts of a group are therefore about characters that come after some blanks,
`AfterBlanks`.

Main statements: `spelled_pretty` says that the form of a datum over several lines is a spelling of
it, and `Spelled.parse_ofList_append` that a map may be followed by the end of its last line.
-/

namespace ScriptTyping.Ron

/-! ## Blanks before parts -/

lemma blanks_cons {c : Char} {bs : List Char} (hc : isBlank c) (hbs : Blanks bs) :
    Blanks (c :: bs) := List.forall_mem_cons.2 ⟨hc, hbs⟩

lemma blanks_indentation (level : Nat) : Blanks (indentation level) := by
  intro c hc
  rw [List.eq_of_mem_replicate hc]
  rfl

/-- Blanks, and then characters of which `p` holds. -/
def AfterBlanks (p : List Char → Prop) (cs : List Char) : Prop :=
  ∃ bs rest, Blanks bs ∧ p rest ∧ cs = bs ++ rest

section

variable {p : List Char → Prop} {bs cs vs : List Char} {v : Value}

lemma afterBlanks_append (hbs : Blanks bs) (h : p cs) : AfterBlanks p (bs ++ cs) :=
  ⟨bs, cs, hbs, h, rfl⟩

/-- A part may begin on a new line. -/
lemma AfterBlanks.newLine (h : AfterBlanks p cs) : AfterBlanks p ('\n' :: cs) := by
  obtain ⟨bs, rest, hbs, hrest, rfl⟩ := h
  exact ⟨'\n' :: bs, rest, blanks_cons (by decide) hbs, hrest, rfl⟩

lemma AfterBlanks.spelled_list {items : List Value} (h : AfterBlanks (SpelledItems ']' items) cs) :
    Spelled (.list items) ('[' :: cs) := by
  obtain ⟨bs, rest, hbs, hitems, rfl⟩ := h
  exact .list hbs hitems

lemma AfterBlanks.spelled_map {entries : List (Value × Value)}
    (h : AfterBlanks (SpelledEntries entries) cs) : Spelled (.map entries) ('\x7b' :: cs) := by
  obtain ⟨bs, rest, hbs, hentries, rfl⟩ := h
  exact .map hbs hentries

lemma AfterBlanks.spelled_record {f : Word × Value} {fields : List (Word × Value)}
    (h : AfterBlanks (SpelledFields (f :: fields)) cs) :
    Spelled (.record none (f :: fields)) ('(' :: cs) := by
  obtain ⟨bs, rest, hbs, hfields, rfl⟩ := h
  exact .record .unnamed hbs hfields

/-- An item, and the others after a comma. -/
lemma AfterBlanks.spelledItems_cons {close : Char} {items : List Value}
    (h : AfterBlanks (SpelledItems close items) cs) (hv : Spelled v vs) :
    SpelledItems close (v :: items) (vs ++ ',' :: cs) := by
  obtain ⟨bs, rest, hbs, hitems, rfl⟩ := h
  exact .cons hv (.comma hbs) hitems

/-- An entry with a blank before its value, and the others after a comma. -/
lemma AfterBlanks.spelledEntries_cons {k : Value} {ks : List Char} {entries : List (Value × Value)}
    (h : AfterBlanks (SpelledEntries entries) cs) (hk : Spelled k ks) (hv : Spelled v vs) :
    SpelledEntries ((k, v) :: entries) (ks ++ ':' :: ' ' :: (vs ++ ',' :: cs)) := by
  obtain ⟨bs, rest, hbs, hentries, rfl⟩ := h
  exact .cons hk (blanks_cons (c := ' ') (by decide) blanks_nil) hv (.comma hbs) hentries

/-- A field with a blank before its value, and the others after a comma. -/
lemma AfterBlanks.spelledFields_cons {ws : List Char} {fields : List (Word × Value)}
    (h : AfterBlanks (SpelledFields fields) cs) (hw : isPlainWord ws) (hv : Spelled v vs) :
    SpelledFields ((⟨String.ofList ws, false⟩, v) :: fields)
      (ws ++ ':' :: ' ' :: (vs ++ ',' :: cs)) := by
  obtain ⟨bs, rest, hbs, hfields, rfl⟩ := h
  exact .cons hw (blanks_cons (c := ' ') (by decide) blanks_nil) hv (.comma hbs) hfields

end

/-! ## Lines -/

mutual

/-- **The form of a datum over several lines is a spelling of it**, whatever the level. -/
theorem spelled_pretty : ∀ (d : Datum) (level : Nat), WellNamed d →
    Spelled (Value.ofDatum d) ((Value.ofDatum d).pretty level)
  | .number n, _, _ => spelled_number n
  | .text s, _, _ => .text s
  | .flag true, _, _ => spelled_word "true" (by decide)
  | .flag false, _, _ => spelled_word "false" (by decide)
  | .tag name, _, h => spelled_word name h
  | .tagged name payload, level, h =>
      spelled_wrapped (spelledName_named name h.1) (spelled_pretty payload level h.2)
  | .record _ [], _, _ => .unit
  | .record _ (f :: fields), level, h => by
      have hrecord := (afterBlanks_prettyFields (f :: fields) level h).newLine.spelled_record
      simpa [Value.ofDatum, Value.ofFields, Value.pretty, nameChars] using hrecord
  | .wrapper _ inner, level, h => spelled_wrapped .unnamed (spelled_pretty inner level h)
  | .list [], _, _ => .list blanks_nil (.nil ']')
  | .list (d :: items), level, h => by
      have hlist := (afterBlanks_prettyItems (d :: items) level h).newLine.spelled_list
      simpa [Value.ofDatum, Value.ofItems, Value.pretty] using hlist
  | .absent, _, _ => spelled_word "None" (by decide)
  | .present inner, level, h =>
      spelled_wrapped (spelledName_named "Some" (by decide)) (spelled_pretty inner level h)
  | .table [], _, _ => .map blanks_nil .nil
  | .table (e :: entries), level, h => by
      have hmap := (afterBlanks_prettyEntries (e :: entries) level h).newLine.spelled_map
      simpa [Value.ofDatum, Value.ofEntries, Value.pretty] using hmap

theorem afterBlanks_prettyItems : ∀ (ds : List Datum) (level : Nat), WellNamedItems ds →
    AfterBlanks (SpelledItems ']' (Value.ofItems ds))
      (prettyItems (level + 1) (Value.ofItems ds) ++ (indentation level ++ [']']))
  | [], level, _ => by
      have hclose := afterBlanks_append (blanks_indentation level) (SpelledItems.nil ']')
      exact hclose
  | d :: rest, level, h => by
      have hrest := (afterBlanks_prettyItems rest level h.2).newLine
      have hitems := hrest.spelledItems_cons (spelled_pretty d (level + 1) h.1)
      have hlines := afterBlanks_append (blanks_indentation (level + 1)) hitems
      simpa [Value.ofItems, prettyItems] using hlines

theorem afterBlanks_prettyFields : ∀ (fs : List (String × Datum)) (level : Nat),
    WellNamedFields fs → AfterBlanks (SpelledFields (Value.ofFields fs))
      (prettyFields (level + 1) (Value.ofFields fs) ++ (indentation level ++ [')']))
  | [], level, _ => by
      have hclose := afterBlanks_append (blanks_indentation level) SpelledFields.nil
      exact hclose
  | (name, d) :: rest, level, h => by
      have hrest := (afterBlanks_prettyFields rest level h.2.2).newLine
      have hfields := hrest.spelledFields_cons h.1 (spelled_pretty d (level + 1) h.2.1)
      have hlines := afterBlanks_append (blanks_indentation (level + 1)) hfields
      simpa [Value.ofFields, prettyFields, Word.chars] using hlines

theorem afterBlanks_prettyEntries : ∀ (es : List (String × Datum)) (level : Nat),
    WellNamedEntries es → AfterBlanks (SpelledEntries (Value.ofEntries es))
      (prettyEntries (level + 1) (Value.ofEntries es) ++ (indentation level ++ ['\x7d']))
  | [], level, _ => by
      have hclose := afterBlanks_append (blanks_indentation level) SpelledEntries.nil
      exact hclose
  | (key, d) :: rest, level, h => by
      have hrest := (afterBlanks_prettyEntries rest level h.2).newLine
      have hentries := hrest.spelledEntries_cons (.text key) (spelled_pretty d (level + 1) h.1)
      have hlines := afterBlanks_append (blanks_indentation (level + 1)) hentries
      simpa [Value.ofEntries, prettyEntries, Value.pretty] using hlines

end

-- Each part has a line of its own and a comma after it, the last part too.
example : (Value.ofDatum (.table [("it's", .record "Pair" [("ty", .tag "Int"),
      ("items", .list [.number 1, .number (-2)])])])).pretty 0 =
    "\x7b\n".toList ++
    "    \"it\\'s\": (\n".toList ++
    "        ty: Int,\n".toList ++
    "        items: [\n".toList ++
    "            1,\n".toList ++
    "            -2,\n".toList ++
    "        ],\n".toList ++
    "    ),\n".toList ++
    "\x7d".toList := by
  decide +kernel

/-- A map ends with its brace, so that blanks after it are not taken for a part of it. -/
theorem Spelled.parse_ofList_append {entries : List (Value × Value)} {cs bs : List Char}
    (h : Spelled (.map entries) cs) (hbs : Blanks bs) :
    parse (String.ofList (cs ++ bs)) = some ({}, .map entries) := by
  cases h with
  | map hbefore hentries =>
      refine parse_of_parseValue (by decide) (parseValue_map ?_) hbs
      rw [List.append_eq, List.append_assoc]
      refine hentries.parseEntries_append _ _ bs hbefore ?_
      simp only [List.length_cons, List.length_append]
      omega

end ScriptTyping.Ron
