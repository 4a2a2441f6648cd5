import ScriptTyping.Proofs.Ron.Lexemes

/-!
# Spellings of documents

A document can be written in many ways: with blanks wherever two tokens meet, and with or without a
comma after the last part of a group.  `Spelled` is the part of that grammar that the writers use.
It is a relation, so that it leaves open which blanks a writer puts where, and the one theorem about
the parser holds for all of them.

A value is only read to its end if the end can be seen: what follows a word or a number must not
belong to it.  `Stops` is what may follow a value within a document.

Main statements: `Spelled.parse_ofList` says that every spelling of a document is read as that
document, and `spelled_compact` that the compact form of a datum is a spelling of it, if its tags
and fields have names that are words.
-/

namespace ScriptTyping.Ron

/-! ## The characters around values -/

/-- What holds of a few characters is decided for one after another. -/
lemma forall_mem_of_all {p : Char → Prop} [DecidablePred p] {cs : List Char}
    (h : cs.all (fun c => decide (p c)) = true) : ∀ c ∈ cs, p c := by
  simpa only [List.all_eq_true, decide_eq_true_eq] using h

/-- Characters that are all blank. -/
def Blanks (bs : List Char) : Prop := ∀ c ∈ bs, isBlank c

/-- The characters that may follow a value. -/
def stopChars : List Char := [',', ')', ']', '\x7d', ':']

/-- The end of the text, or a character that may follow a value. -/
def Stops (rest : List Char) : Prop := ∀ c ∈ rest.head?, c ∈ stopChars

/-- The characters a value can begin with. -/
def Opens (c : Char) : Prop := c ∈ ['"', '[', '\x7b', '('] ∨ isNumberStart c ∨ isWordStart c

instance (c : Char) : Decidable (Opens c) := inferInstanceAs (Decidable (_ ∨ _ ∨ _))

lemma not_opens_of_mem_stopChars : ∀ c ∈ stopChars, ¬ Opens c := forall_mem_of_all (by decide)

lemma skipBlanks_cons_of_mem_stopChars {c : Char} (h : c ∈ stopChars) (rest : List Char) :
    skipBlanks (c :: rest) = some (c :: rest) := by
  have hchar : ∀ c ∈ stopChars, ¬ isBlank c ∧ c ≠ '/' := forall_mem_of_all (by decide)
  exact skipBlanks_cons (hchar c h).1 (hchar c h).2 rest

lemma Opens.skipBlanks_cons {c : Char} (h : Opens c) (rest : List Char) :
    skipBlanks (c :: rest) = some (c :: rest) := by
  have hother : ∀ c ∈ [' ', '\t', '\n', '\r', '/'], ¬ Opens c := forall_mem_of_all (by decide)
  refine Ron.skipBlanks_cons (fun hblank => hother c ?_ h) (fun hslash => hother c ?_ h) rest
  · simpa [isBlank, or_assoc] using Or.inl hblank
  · simp [hslash]

lemma stops_cons {c : Char} (h : c ∈ stopChars) (rest : List Char) : Stops (c :: rest) := by
  intro d hd
  obtain rfl := Option.some.inj hd
  exact h

lemma Stops.skipBlanks {rest : List Char} (h : Stops rest) : skipBlanks rest = some rest := by
  cases rest with
  | nil => rfl
  | cons c rest => exact skipBlanks_cons_of_mem_stopChars (h c rfl) rest

/-! ## The grammar -/

/-- The name before a group. It may be left out. -/
inductive SpelledName : Option Word → List Char → Prop
  | unnamed : SpelledName none []
  | named {cs : List Char} (h : isPlainWord cs) :
      SpelledName (some ⟨String.ofList cs, false⟩) cs

/-- What divides a part of a group from what comes after it: a comma with blanks, or nothing before
the end of the group. -/
inductive Divided (close : Char) : List Char → List Char → Prop
  | comma {bs after : List Char} (h : Blanks bs) : Divided close (',' :: bs) after
  | last : Divided close [] [close]

mutual

/-- The characters are a way to write the document. -/
inductive Spelled : Value → List Char → Prop
  | number {c : Char} {cs : List Char} (hc : isNumberStart c) (hcs : ∀ d ∈ cs, isNumberChar d) :
      Spelled (.number (String.ofList (c :: cs))) (c :: cs)
  | text (s : String) : Spelled (.text s) (textChars s)
  | unit : Spelled .unit ['(', ')']
  | word {cs : List Char} (h : isPlainWord cs) : Spelled (.word ⟨String.ofList cs, false⟩) cs
  | list {bs cs : List Char} {items : List Value} (hbs : Blanks bs)
      (h : SpelledItems ']' items cs) : Spelled (.list items) ('[' :: (bs ++ cs))
  | map {bs cs : List Char} {entries : List (Value × Value)} (hbs : Blanks bs)
      (h : SpelledEntries entries cs) : Spelled (.map entries) ('\x7b' :: (bs ++ cs))
  /-- Without a name and without items, the parentheses would be a unit. -/
  | tuple {name : Option Word} {ns bs cs : List Char} {v : Value} {items : List Value}
      (hname : SpelledName name ns) (hbs : Blanks bs) (h : SpelledItems ')' (v :: items) cs) :
      Spelled (.tuple name (v :: items)) (ns ++ '(' :: (bs ++ cs))
  | record {name : Option Word} {ns bs cs : List Char} {f : Word × Value}
      {fields : List (Word × Value)} (hname : SpelledName name ns) (hbs : Blanks bs)
      (h : SpelledFields (f :: fields) cs) :
      Spelled (.record name (f :: fields)) (ns ++ '(' :: (bs ++ cs))

/-- The characters are a way to write the items of a group, up to the end of the group. -/
inductive SpelledItems : Char → List Value → List Char → Prop
  | nil (close : Char) : SpelledItems close [] [close]
  | cons {close : Char} {v : Value} {items : List Value} {cs division after : List Char}
      (hv : Spelled v cs) (hdivided : Divided close division after)
      (h : SpelledItems close items after) :
      SpelledItems close (v :: items) (cs ++ (division ++ after))

/-- The characters are a way to write the entries of a map, up to its end. -/
inductive SpelledEntries : List (Value × Value) → List Char → Prop
  | nil : SpelledEntries [] ['\x7d']
  | cons {k v : Value} {entries : List (Value × Value)} {ks bs cs division after : List Char}
      (hk : Spelled k ks) (hbs : Blanks bs) (hv : Spelled v cs)
      (hdivided : Divided '\x7d' division after) (h : SpelledEntries entries after) :
      SpelledEntries ((k, v) :: entries) (ks ++ ':' :: (bs ++ (cs ++ (division ++ after))))

/-- The characters are a way to write the fields of a record, up to its end. -/
inductive SpelledFields : List (Word × Value) → List Char → Prop
  | nil : SpelledFields [] [')']
  | cons {v : Value} {fields : List (Word × Value)} {ws bs cs division after : List Char}
      (hw : isPlainWord ws) (hbs : Blanks bs) (hv : Spelled v cs)
      (hdivided : Divided ')' division after) (h : SpelledFields fields after) :
      SpelledFields ((⟨String.ofList ws, false⟩, v) :: fields)
        (ws ++ ':' :: (bs ++ (cs ++ (division ++ after))))

end

/-! ## How spellings begin -/

lemma exists_cons_of_isPlainWord {cs : List Char} (h : isPlainWord cs) :
    ∃ c tail, cs = c :: tail ∧ isWordStart c := by
  cases cs with
  | nil => cases h
  | cons c tail =>
      rw [isPlainWord, Bool.and_eq_true] at h
      exact ⟨c, tail, rfl, h.1⟩

lemma Spelled.exists_cons {v : Value} {cs : List Char} (h : Spelled v cs) :
    ∃ c tail, cs = c :: tail ∧ Opens c := by
  have hgroup : ∀ {name ns} (_ : SpelledName name ns) (inner : List Char),
      ∃ c tail, ns ++ '(' :: inner = c :: tail ∧ Opens c := by
    intro name ns hname inner
    cases hname with
    | unnamed => exact ⟨'(', inner, rfl, by decide⟩
    | named hw =>
        obtain ⟨c, tail, rfl, hc⟩ := exists_cons_of_isPlainWord hw
        exact ⟨c, _, rfl, Or.inr (Or.inr hc)⟩
  cases h with
  | number hc _ => exact ⟨_, _, rfl, Or.inr (Or.inl hc)⟩
  | text s => exact ⟨'"', _, rfl, by decide⟩
  | unit => exact ⟨'(', _, rfl, by decide⟩
  | word hw =>
      obtain ⟨c, tail, rfl, hc⟩ := exists_cons_of_isPlainWord hw
      exact ⟨c, tail, rfl, Or.inr (Or.inr hc)⟩
  | list _ _ => exact ⟨'[', _, rfl, by decide⟩
  | map _ _ => exact ⟨'\x7b', _, rfl, by decide⟩
  | tuple hname _ _ => exact hgroup hname _
  | record hname _ _ => exact hgroup hname _

lemma word?_of_not_isWordStart {c : Char} (h : ¬ isWordStart c) (rest : List Char) :
    word? (c :: rest) = none := by
  unfold word?
  split
  · next heq =>
    obtain ⟨rfl, -⟩ := List.cons.inj heq
    exact absurd rfl h
  · exact if_neg h

/-- The end of the text, or a character that may follow a word. -/
def EndsWord (rest : List Char) : Prop := ∀ c ∈ rest.head?, c ∈ '(' :: stopChars

lemma Stops.endsWord {rest : List Char} (h : Stops rest) : EndsWord rest :=
  fun c hc => List.mem_cons_of_mem _ (h c hc)

lemma endsWord_cons {c : Char} (h : c ∈ '(' :: stopChars) (rest : List Char) :
    EndsWord (c :: rest) := by
  intro d hd
  obtain rfl := Option.some.inj hd
  exact h

lemma EndsWord.word?_append {cs rest : List Char} (hrest : EndsWord rest) (h : isPlainWord cs) :
    word? (cs ++ rest) = some (⟨String.ofList cs, false⟩, rest) := by
  have hchar : ∀ c ∈ '(' :: stopChars, ¬ isWordChar c ∧ c ≠ '#' := forall_mem_of_all (by decide)
  exact Ron.word?_append h fun c hc => hchar c (hrest c hc)

lemma not_isAlpha_of_isDigit {c : Char} (h : c.isDigit) : ¬ c.isAlpha := by
  intro halpha
  have hdigit : c.val ≤ '9'.val := of_decide_eq_true ((Bool.and_eq_true _ _).mp h).2
  rcases (Bool.or_eq_true _ _).mp halpha with hupper | hlower
  · have hletter : 'A'.val ≤ c.val := (of_decide_eq_true hupper).1
    exact absurd (UInt32.le_trans hletter hdigit) (by decide)
  · have hletter : 'a'.val ≤ c.val := of_decide_eq_true ((Bool.and_eq_true _ _).mp hlower).1
    exact absurd (UInt32.le_trans hletter hdigit) (by decide)

lemma not_isWordStart_of_isNumberStart {c : Char} (h : isNumberStart c) : ¬ isWordStart c := by
  have hsign : ∀ c ∈ ['.', '+', '-'], ¬ isWordStart c := forall_mem_of_all (by decide)
  by_cases hdigit : c.isDigit
  · have halpha := not_isAlpha_of_isDigit hdigit
    have hmark : c ≠ '_' := by
      rintro rfl
      cases hdigit
    simp [isWordStart, halpha, hmark]
  · refine hsign c ?_
    simpa [isNumberStart, hdigit, or_assoc] using h

/-- An item is not the name of a field: no colon follows the word it may begin with. -/
lemma Spelled.not_beginsRecord {v : Value} {cs rest : List Char} (h : Spelled v cs)
    (hrest : Stops rest) (hcolon : rest.head? ≠ some ':') : beginsRecord (cs ++ rest) = false := by
  have hother : ∀ {c : Char}, ¬ isWordStart c → ∀ tail, beginsRecord (c :: tail) = false := by
    intro c hc tail
    rw [beginsRecord, word?_of_not_isWordStart hc]
  have hgroup : ∀ {name ns} (_ : SpelledName name ns) (inner : List Char),
      beginsRecord (ns ++ '(' :: inner ++ rest) = false := by
    intro name ns hname inner
    cases hname with
    | unnamed => exact hother (by decide) _
    | named hw =>
        rw [List.append_assoc, List.cons_append, beginsRecord,
          (endsWord_cons (by decide) _).word?_append hw]
        rfl
  cases h with
  | number hc _ => exact hother (not_isWordStart_of_isNumberStart hc) _
  | text s => exact hother (by decide) _
  | unit => exact hother (by decide) _
  | word hw =>
      rw [beginsRecord, hrest.endsWord.word?_append hw]
      simp only [hrest.skipBlanks]
      split
      · next heq =>
        rw [Option.some.inj heq] at hcolon
        exact absurd rfl hcolon
      · rfl
  | list _ _ => exact hother (by decide) _
  | map _ _ => exact hother (by decide) _
  | tuple hname _ _ => exact hgroup hname _
  | record hname _ _ => exact hgroup hname _

/-! ## Reading one part of a document

Each of these lemmas takes the parser over one token or one part; the steps that are left for the
rest are counted down by one. -/

variable {n : Nat} {rest : List Char}

/-- A character of a class without delimiters begins no text, no character and no group. -/
lemma ne_delimiters {p : Char → Bool} {c : Char} (hc : p c)
    (hp : ∀ d ∈ ['"', '\'', '[', '\x7b', '('], ¬ p d) :
    c ≠ '"' ∧ c ≠ '\'' ∧ c ≠ '[' ∧ c ≠ '\x7b' ∧ c ≠ '(' := by
  have hne : ∀ d ∈ ['"', '\'', '[', '\x7b', '('], c ≠ d := by
    rintro d hd rfl
    exact hp c hd hc
  simpa using hne

lemma parseValue_number {c : Char} {cs : List Char} (hc : isNumberStart c)
    (hcs : ∀ d ∈ cs, isNumberChar d) (hrest : Stops rest) :
    parseValue {} (n + 1) (c :: cs ++ rest) =
      some (.number (String.ofList (c :: cs)), rest) := by
  have hend : ∀ d ∈ stopChars, ¬ isNumberChar d := forall_mem_of_all (by decide)
  have hne := ne_delimiters hc (forall_mem_of_all (by decide))
  obtain ⟨htake, hdrop⟩ := takeWhile_append_of_all hcs fun d hd => hend d (hrest d hd)
  simp [parseValue, hne, hc, htake, hdrop]

lemma parseValue_text (s : String) :
    parseValue {} (n + 1) (textChars s ++ rest) = some (.text s, rest) := by
  have hchars : textChars s ++ rest =
      '"' :: (s.toList.flatMap (Text.escape true) ++ '"' :: rest) := by
    simp [textChars, Text.quote]
  rw [hchars]
  simp [parseValue, scanText_escaped]

lemma scanRaw?_eq_none {cs : List Char} (h : ∀ c ∈ cs.head?, c ≠ '#' ∧ c ≠ '"') :
    scanRaw? cs = none := by
  cases cs with
  | nil => rfl
  | cons c cs =>
      obtain ⟨hhash, hquote⟩ := h c rfl
      have hdrop : (c :: cs).dropWhile (· == '#') = c :: cs :=
        List.dropWhile_cons_of_neg (by simp [hhash])
      unfold scanRaw?
      simp only [hdrop]
      split
      · next heq => exact absurd (List.cons.inj heq).1 hquote
      · rfl

/-- No word is taken for a raw text. -/
lemma parseValue_word {cs : List Char} (h : isPlainWord cs) (hrest : EndsWord rest) :
    parseValue {} (n + 1) (cs ++ rest) =
      parseAfterWord {} ⟨String.ofList cs, false⟩ n rest := by
  have hword := hrest.word?_append h
  cases cs with
  | nil => cases h
  | cons c tail =>
      simp only [isPlainWord, Bool.and_eq_true, List.all_eq_true] at h
      have hne := ne_delimiters h.1 (forall_mem_of_all (by decide))
      have hnumber : ¬ isNumberStart c := fun hc => not_isWordStart_of_isNumberStart hc h.1
      have hraw : scanRaw? (tail ++ rest) = none := by
        have hend : ∀ d ∈ '(' :: stopChars, d ≠ '#' ∧ d ≠ '"' := forall_mem_of_all (by decide)
        have hquoted : ∀ d ∈ ['#', '"'], ¬ isWordChar d := forall_mem_of_all (by decide)
        refine scanRaw?_eq_none fun d hd => ?_
        cases tail with
        | nil => exact hend d (hrest d hd)
        | cons e tail =>
            obtain rfl := Option.some.inj hd
            have he := h.2 e List.mem_cons_self
            exact ⟨fun heq => hquoted e (by simp [heq]) he, fun heq => hquoted e (by simp [heq]) he⟩
      rw [List.cons_append] at hword ⊢
      simp [parseValue, hne, hnumber, hraw, hword]

lemma parseAfterWord_stops (w : Word) (hrest : Stops rest) :
    parseAfterWord {} w (n + 1) rest = some (.word w, rest) := by
  rw [parseAfterWord]
  simp only [Bool.false_and, Bool.false_eq_true, if_false, hrest.skipBlanks]
  split
  · next heq => cases heq
  · next heq =>
    rw [Option.some.inj heq] at hrest
    exact absurd (hrest '(' rfl) (by decide)
  · next heq => rw [← Option.some.inj heq]

lemma parseAfterWord_group (w : Word) (inner : List Char) :
    parseAfterWord {} w (n + 1) ('(' :: inner) = parseGroup {} (some w) n inner := by
  have hparen : skipBlanks ('(' :: inner) = some ('(' :: inner) :=
    skipBlanks_cons (by decide) (by decide) inner
  rw [parseAfterWord]
  simp [hparen]

lemma parseValue_group {inner : List Char} (h : inner.head? ≠ some ')') :
    parseValue {} (n + 1) ('(' :: inner) = parseGroup {} none n inner := by
  rw [parseValue.eq_def]
  simp only [Char.reduceEq, if_false, if_true]
  split
  · next heq => exact absurd rfl h
  · rfl

/-- The parser comes to the contents of a group with enough steps left for them, whether or not a
name stands before the group. -/
lemma SpelledName.parseValue_group {name : Option Word} {ns inner : List Char} {k : Nat}
    (hname : SpelledName name ns) (hinner : inner.head? ≠ some ')')
    (hn : 2 * ns.length + 2 + k ≤ n) :
    ∃ m, k ≤ m ∧ parseValue {} n (ns ++ '(' :: inner) = parseGroup {} name (m + 1) inner := by
  cases hname with
  | unnamed =>
      obtain ⟨m, rfl⟩ : ∃ m, n = m + 2 := ⟨n - 2, by omega⟩
      rw [List.length_nil] at hn
      exact ⟨m, by omega, Ron.parseValue_group hinner⟩
  | named hw =>
      obtain ⟨c, tail, rfl, -⟩ := exists_cons_of_isPlainWord hw
      rw [List.length_cons] at hn
      obtain ⟨m, rfl⟩ : ∃ m, n = m + 3 := ⟨n - 3, by omega⟩
      refine ⟨m, by omega, ?_⟩
      rw [parseValue_word hw (endsWord_cons (by decide) inner), parseAfterWord_group]

lemma parseGroup_items {name : Option Word} {bs cs : List Char} {items : List Value}
    (hbs : Blanks bs) (hcs : skipBlanks cs = some cs) (hrecord : beginsRecord cs = false)
    (h : parseItems {} ')' n cs = some (items, rest)) :
    parseGroup {} name (n + 1) (bs ++ cs) = some (.tuple name items, rest) := by
  rw [parseGroup, skipBlanks_append hbs, hcs]
  simp [hrecord, h]

lemma parseGroup_fields {name : Option Word} {bs cs : List Char} {fields : List (Word × Value)}
    (hbs : Blanks bs) (hcs : skipBlanks cs = some cs) (hrecord : beginsRecord cs = true)
    (h : parseFields {} n cs = some (fields, rest)) :
    parseGroup {} name (n + 1) (bs ++ cs) = some (.record name fields, rest) := by
  rw [parseGroup, skipBlanks_append hbs, hcs]
  simp [hrecord, h]

lemma parseItems_nil {close : Char} (hclose : close ∈ stopChars) {bs : List Char}
    (hbs : Blanks bs) :
    parseItems {} close (n + 1) (bs ++ close :: rest) = some ([], rest) := by
  rw [parseItems, skipBlanks_append hbs, skipBlanks_cons_of_mem_stopChars hclose]
  simp

lemma parseItems_cons {close : Char} (hclose : close ∈ stopChars) {bs cs after : List Char}
    {v : Value} {items : List Value} (hbs : Blanks bs) (hcs : Spelled v cs)
    (hv : parseValue {} n (cs ++ after) = some (v, after)) {more : List Char}
    (hafter : afterPart? close after = some more)
    (h : parseItems {} close n more = some (items, rest)) :
    parseItems {} close (n + 1) (bs ++ (cs ++ after)) = some (v :: items, rest) := by
  obtain ⟨c, tail, rfl, hc⟩ := hcs.exists_cons
  have hne : c ≠ close := by
    rintro rfl
    exact not_opens_of_mem_stopChars c hclose hc
  rw [List.cons_append] at hv ⊢
  rw [parseItems, skipBlanks_append hbs, hc.skipBlanks_cons]
  simp [hne, hv, hafter, h]

lemma expect?_colon {bs cs : List Char} (hbs : Blanks bs) (hcs : skipBlanks cs = some cs) :
    (skipBlanks (':' :: (bs ++ cs))).bind (expect? [':']) = some cs := by
  rw [skipBlanks_cons_of_mem_stopChars (by decide), Option.bind_some]
  simp [expect?, skipBlanks_append hbs, hcs]

lemma Spelled.length_pos {v : Value} {cs : List Char} (h : Spelled v cs) : 0 < cs.length := by
  obtain ⟨c, tail, rfl, -⟩ := h.exists_cons
  exact Nat.succ_pos _

lemma Spelled.skipBlanks_append {v : Value} {cs : List Char} (h : Spelled v cs)
    (rest : List Char) : skipBlanks (cs ++ rest) = some (cs ++ rest) := by
  obtain ⟨c, tail, rfl, hc⟩ := h.exists_cons
  exact hc.skipBlanks_cons _

lemma parseEntries_nil {bs : List Char} (hbs : Blanks bs) :
    parseEntries {} (n + 1) (bs ++ '\x7d' :: rest) = some ([], rest) := by
  rw [parseEntries, skipBlanks_append hbs, skipBlanks_cons_of_mem_stopChars (by decide)]
  simp

lemma parseEntries_cons {bs ks bs' cs after more : List Char} {k v : Value}
    {entries : List (Value × Value)} (hbs : Blanks bs) (hks : Spelled k ks) (hbs' : Blanks bs')
    (hcs : Spelled v cs)
    (hk : ∀ tail, parseValue {} n (ks ++ ':' :: tail) = some (k, ':' :: tail))
    (hv : parseValue {} n (cs ++ after) = some (v, after))
    (hafter : afterPart? '\x7d' after = some more)
    (h : parseEntries {} n more = some (entries, rest)) :
    parseEntries {} (n + 1) (bs ++ (ks ++ ':' :: (bs' ++ (cs ++ after)))) =
      some ((k, v) :: entries, rest) := by
  have hcolon := expect?_colon hbs' (hcs.skipBlanks_append after)
  have hkey := hk (bs' ++ (cs ++ after))
  obtain ⟨c, tail, rfl, hc⟩ := hks.exists_cons
  have hne : c ≠ '\x7d' := by
    rintro rfl
    exact not_opens_of_mem_stopChars _ (by decide) hc
  rw [List.cons_append] at hkey ⊢
  rw [parseEntries, Ron.skipBlanks_append hbs, hc.skipBlanks_cons]
  simp [hne, hkey, hcolon, hv, hafter, h]

lemma parseValue_map {cs : List Char} {entries : List (Value × Value)}
    (h : parseEntries {} n cs = some (entries, rest)) :
    parseValue {} (n + 1) ('\x7b' :: cs) = some (.map entries, rest) := by
  simp [parseValue, h]

lemma parseFields_nil {bs : List Char} (hbs : Blanks bs) :
    parseFields {} (n + 1) (bs ++ ')' :: rest) = some ([], rest) := by
  rw [parseFields, skipBlanks_append hbs, skipBlanks_cons_of_mem_stopChars (by decide)]
  simp

lemma parseFields_cons {bs ws bs' cs after more : List Char} {v : Value}
    {fields : List (Word × Value)} (hbs : Blanks bs) (hws : isPlainWord ws) (hbs' : Blanks bs')
    (hcs : Spelled v cs) (hv : parseValue {} n (cs ++ after) = some (v, after))
    (hafter : afterPart? ')' after = some more)
    (h : parseFields {} n more = some (fields, rest)) :
    parseFields {} (n + 1) (bs ++ (ws ++ ':' :: (bs' ++ (cs ++ after)))) =
      some ((⟨String.ofList ws, false⟩, v) :: fields, rest) := by
  have hcolon := expect?_colon hbs' (hcs.skipBlanks_append after)
  have hends : EndsWord (':' :: (bs' ++ (cs ++ after))) := endsWord_cons (by decide) _
  have hname := hends.word?_append hws
  obtain ⟨c, tail, rfl, hc⟩ := exists_cons_of_isPlainWord hws
  have hopens : Opens c := Or.inr (Or.inr hc)
  have hne : c ≠ ')' := by
    rintro rfl
    exact not_opens_of_mem_stopChars _ (by decide) hopens
  rw [List.cons_append] at hname ⊢
  rw [parseFields, Ron.skipBlanks_append hbs, hopens.skipBlanks_cons]
  simp [hne, hname, hcolon, hv, hafter, h]

/-! ## Reading spellings -/

/-- The characters that close a group. -/
def closeChars : List Char := [')', ']', '\x7d']

lemma mem_stopChars_of_mem_closeChars : ∀ c ∈ closeChars, c ∈ stopChars :=
  forall_mem_of_all (by decide)

/-- What follows a part of a group stops the part, and it is no colon. -/
lemma Divided.stops {close : Char} {division after : List Char} (h : Divided close division after)
    (hclose : close ∈ closeChars) (rest : List Char) :
    Stops (division ++ (after ++ rest)) ∧ (division ++ (after ++ rest)).head? ≠ some ':' := by
  have hcolon : ∀ c ∈ closeChars, c ≠ ':' := forall_mem_of_all (by decide)
  cases h with
  | comma _ => exact ⟨stops_cons (by decide) _, by simp⟩
  | last =>
      exact ⟨stops_cons (mem_stopChars_of_mem_closeChars _ hclose) rest,
        by simpa using hcolon close hclose⟩

lemma Divided.length_pos {close : Char} {division after : List Char}
    (h : Divided close division after) : 0 < division.length + after.length := by
  cases h with
  | comma _ =>
      rw [List.length_cons]
      omega
  | last => exact Nat.one_pos

lemma Divided.afterPart? {close : Char} {division after : List Char}
    (h : Divided close division after) (hclose : close ∈ closeChars)
    (hafter : skipBlanks (after ++ rest) = some (after ++ rest)) :
    afterPart? close (division ++ (after ++ rest)) = some (after ++ rest) := by
  cases h with
  | comma hbs =>
      have hcomma := skipBlanks_cons_of_mem_stopChars (c := ',') (by decide)
      simp [Ron.afterPart?, hcomma, skipBlanks_append hbs, hafter]
  | last =>
      have hne : ∀ c ∈ closeChars, c ≠ ',' := forall_mem_of_all (by decide)
      have hend := skipBlanks_cons_of_mem_stopChars (mem_stopChars_of_mem_closeChars _ hclose) rest
      simp [Ron.afterPart?, hend, hne close hclose]

lemma SpelledItems.skipBlanks_append {close : Char} {items : List Value} {cs : List Char}
    (h : SpelledItems close items cs) (hclose : close ∈ closeChars) (rest : List Char) :
    skipBlanks (cs ++ rest) = some (cs ++ rest) := by
  cases h with
  | nil => exact skipBlanks_cons_of_mem_stopChars (mem_stopChars_of_mem_closeChars _ hclose) rest
  | cons hv _ _ =>
      rw [List.append_assoc]
      exact hv.skipBlanks_append _

lemma SpelledEntries.skipBlanks_append {entries : List (Value × Value)} {cs : List Char}
    (h : SpelledEntries entries cs) (rest : List Char) :
    skipBlanks (cs ++ rest) = some (cs ++ rest) := by
  cases h with
  | nil => exact skipBlanks_cons_of_mem_stopChars (by decide) rest
  | cons hk _ _ _ _ =>
      rw [List.append_assoc]
      exact hk.skipBlanks_append _

lemma SpelledFields.skipBlanks_append {fields : List (Word × Value)} {cs : List Char}
    (h : SpelledFields fields cs) (rest : List Char) :
    skipBlanks (cs ++ rest) = some (cs ++ rest) := by
  cases h with
  | nil => exact skipBlanks_cons_of_mem_stopChars (by decide) rest
  | cons hw _ _ _ _ =>
      rw [List.append_assoc]
      exact (Spelled.word hw).skipBlanks_append _

lemma SpelledItems.exists_cons {close : Char} {v : Value} {items : List Value} {cs : List Char}
    (h : SpelledItems close (v :: items) cs) (hclose : close ∈ closeChars) (rest : List Char) :
    (∃ c tail, cs = c :: tail ∧ Opens c) ∧ beginsRecord (cs ++ rest) = false := by
  cases h with
  | cons hv hdivided h =>
      obtain ⟨hstops, hcolon⟩ := hdivided.stops hclose rest
      obtain ⟨c, tail, rfl, hc⟩ := hv.exists_cons
      refine ⟨⟨c, _, rfl, hc⟩, ?_⟩
      rw [List.append_assoc, List.append_assoc]
      exact hv.not_beginsRecord hstops hcolon

lemma SpelledFields.exists_cons {f : Word × Value} {fields : List (Word × Value)} {cs : List Char}
    (h : SpelledFields (f :: fields) cs) (rest : List Char) :
    (∃ c tail, cs = c :: tail ∧ Opens c) ∧ beginsRecord (cs ++ rest) = true := by
  cases h with
  | cons hw _ _ _ _ =>
      refine ⟨?_, ?_⟩
      · obtain ⟨c, tail, rfl, hc⟩ := exists_cons_of_isPlainWord hw
        exact ⟨c, _, rfl, Or.inr (Or.inr hc)⟩
      · rw [List.append_assoc, List.cons_append, beginsRecord,
          (endsWord_cons (by decide) _).word?_append hw]
        simp [skipBlanks_cons_of_mem_stopChars (c := ':') (by decide)]

/-- A group that begins with a part does not look like a unit. -/
lemma head?_ne_paren {bs cs : List Char} (hbs : Blanks bs)
    (h : ∃ c tail, cs = c :: tail ∧ Opens c) (rest : List Char) :
    (bs ++ (cs ++ rest)).head? ≠ some ')' := by
  obtain ⟨c, tail, rfl, hc⟩ := h
  cases bs with
  | nil =>
      intro heq
      obtain rfl := Option.some.inj heq
      exact not_opens_of_mem_stopChars _ (by decide) hc
  | cons b bs =>
      intro heq
      obtain rfl := Option.some.inj heq
      exact absurd (hbs _ List.mem_cons_self) (by decide)

mutual

/-- **Every spelling of a value is read as that value.** Twice as many steps as there are characters
are enough. The induction is on the spelling, one lemma above for each of its cases. -/
theorem Spelled.parseValue_append {v : Value} {cs : List Char} (h : Spelled v cs) (n : Nat)
    (rest : List Char) (hrest : Stops rest) (hn : 2 * cs.length ≤ n) :
    parseValue {} n (cs ++ rest) = some (v, rest) := by
  cases h with
  | number hc hcs =>
      rw [List.length_cons] at hn
      obtain ⟨m, rfl⟩ : ∃ m, n = m + 1 := ⟨n - 1, by omega⟩
      exact parseValue_number hc hcs hrest
  | text s =>
      obtain ⟨m, rfl⟩ : ∃ m, n = m + 1 := ⟨n - 1, by simp [textChars, Text.quote] at hn; omega⟩
      exact parseValue_text s
  | unit =>
      obtain ⟨m, rfl⟩ : ∃ m, n = m + 1 := ⟨n - 1, by simp at hn; omega⟩
      rfl
  | word hw =>
      obtain ⟨c, tail, rfl, -⟩ := exists_cons_of_isPlainWord hw
      rw [List.length_cons] at hn
      obtain ⟨m, rfl⟩ : ∃ m, n = m + 2 := ⟨n - 2, by omega⟩
      rw [parseValue_word hw hrest.endsWord, parseAfterWord_stops _ hrest]
  | list hbs h =>
      rw [List.length_cons, List.length_append] at hn
      obtain ⟨m, rfl⟩ : ∃ m, n = m + 1 := ⟨n - 1, by omega⟩
      have hitems := h.parseItems_append (by decide) m _ rest hbs (by omega)
      rw [List.cons_append, List.append_assoc]
      simp [parseValue, hitems]
  | map hbs h =>
      rw [List.length_cons, List.length_append] at hn
      obtain ⟨m, rfl⟩ : ∃ m, n = m + 1 := ⟨n - 1, by omega⟩
      have hentries := h.parseEntries_append m _ rest hbs (by omega)
      rw [List.cons_append, List.append_assoc]
      exact parseValue_map hentries
  | @tuple name ns bs cs v items hname hbs h =>
      obtain ⟨hopens, hrecord⟩ := h.exists_cons (by decide) rest
      rw [List.length_append, List.length_cons, List.length_append] at hn
      rw [List.append_assoc, List.cons_append, List.append_assoc]
      have hroom : 2 * ns.length + 2 + 2 * cs.length ≤ n := by omega
      obtain ⟨m, hm, hgroup⟩ := hname.parseValue_group (head?_ne_paren hbs hopens rest) hroom
      rw [hgroup]
      exact parseGroup_items hbs (h.skipBlanks_append (by decide) rest) hrecord
        (h.parseItems_append (by decide) m [] rest nofun hm)
  | @record name ns bs cs f fields hname hbs h =>
      obtain ⟨hopens, hrecord⟩ := h.exists_cons rest
      rw [List.length_append, List.length_cons, List.length_append] at hn
      rw [List.append_assoc, List.cons_append, List.append_assoc]
      have hroom : 2 * ns.length + 2 + 2 * cs.length ≤ n := by omega
      obtain ⟨m, hm, hgroup⟩ := hname.parseValue_group (head?_ne_paren hbs hopens rest) hroom
      rw [hgroup]
      exact parseGroup_fields hbs (h.skipBlanks_append rest) hrecord
        (h.parseFields_append m [] rest nofun hm)

theorem SpelledItems.parseItems_append {close : Char} {items : List Value}
    {cs : List Char} (h : SpelledItems close items cs) (hclose : close ∈ closeChars) (n : Nat)
    (bs rest : List Char) (hbs : Blanks bs) (hn : 2 * cs.length ≤ n) :
    parseItems {} close n (bs ++ (cs ++ rest)) = some (items, rest) := by
  have hstop := mem_stopChars_of_mem_closeChars close hclose
  cases h with
  | nil =>
      rw [List.length_singleton] at hn
      obtain ⟨m, rfl⟩ : ∃ m, n = m + 1 := ⟨n - 1, by omega⟩
      exact parseItems_nil hstop hbs
  | cons hv hdivided h =>
      have hlen := hdivided.length_pos
      have hpos := hv.length_pos
      rw [List.length_append, List.length_append] at hn
      obtain ⟨m, rfl⟩ : ∃ m, n = m + 1 := ⟨n - 1, by omega⟩
      have hvalue := hv.parseValue_append m _ (hdivided.stops hclose rest).1 (by omega)
      have hmore := h.parseItems_append hclose m [] rest nofun (by omega)
      rw [List.append_assoc, List.append_assoc]
      exact parseItems_cons hstop hbs hv hvalue
        (hdivided.afterPart? hclose (h.skipBlanks_append hclose rest)) hmore

theorem SpelledEntries.parseEntries_append {entries : List (Value × Value)} {cs : List Char}
    (h : SpelledEntries entries cs) (n : Nat) (bs rest : List Char) (hbs : Blanks bs)
    (hn : 2 * cs.length ≤ n) :
    parseEntries {} n (bs ++ (cs ++ rest)) = some (entries, rest) := by
  cases h with
  | nil =>
      rw [List.length_singleton] at hn
      obtain ⟨m, rfl⟩ : ∃ m, n = m + 1 := ⟨n - 1, by omega⟩
      exact parseEntries_nil hbs
  | cons hk hbs' hv hdivided h =>
      have hlen := hdivided.length_pos
      have hpos := hk.length_pos
      simp only [List.length_append, List.length_cons] at hn
      obtain ⟨m, rfl⟩ : ∃ m, n = m + 1 := ⟨n - 1, by omega⟩
      have hkey : ∀ tail, parseValue {} m (_ ++ ':' :: tail) = some (_, ':' :: tail) := fun tail =>
        hk.parseValue_append m (':' :: tail) (stops_cons (by decide) tail) (by omega)
      have hvalue := hv.parseValue_append m _ (hdivided.stops (by decide) rest).1 (by omega)
      have hmore := h.parseEntries_append m [] rest nofun (by omega)
      simp only [List.append_assoc, List.cons_append]
      exact parseEntries_cons hbs hk hbs' hv hkey hvalue
        (hdivided.afterPart? (by decide) (h.skipBlanks_append rest)) hmore

theorem SpelledFields.parseFields_append {fields : List (Word × Value)} {cs : List Char}
    (h : SpelledFields fields cs) (n : Nat) (bs rest : List Char) (hbs : Blanks bs)
    (hn : 2 * cs.length ≤ n) :
    parseFields {} n (bs ++ (cs ++ rest)) = some (fields, rest) := by
  cases h with
  | nil =>
      rw [List.length_singleton] at hn
      obtain ⟨m, rfl⟩ : ∃ m, n = m + 1 := ⟨n - 1, by omega⟩
      exact parseFields_nil hbs
  | cons hw hbs' hv hdivided h =>
      have hlen := hdivided.length_pos
      have hpos := (Spelled.word hw).length_pos
      simp only [List.length_append, List.length_cons] at hn
      obtain ⟨m, rfl⟩ : ∃ m, n = m + 1 := ⟨n - 1, by omega⟩
      have hvalue := hv.parseValue_append m _ (hdivided.stops (by decide) rest).1 (by omega)
      have hmore := h.parseFields_append m [] rest nofun (by omega)
      simp only [List.append_assoc, List.cons_append]
      exact parseFields_cons hbs hw hbs' hv hvalue
        (hdivided.afterPart? (by decide) (h.skipBlanks_append rest)) hmore

end

/-- A document without attributes is the value it begins with, if nothing but blanks follows. -/
lemma parse_of_parseValue {c : Char} {tail : List Char} {v : Value} (hc : Opens c)
    (hv : parseValue {} (2 * (c :: tail).length + 2) (c :: tail) = some (v, rest))
    (hrest : Blanks rest) : parse (String.ofList (c :: tail)) = some ({}, v) := by
  have hattributes : parseAttributes ((c :: tail).length + 1) {} (c :: tail) =
      some ({}, c :: tail) := by
    have hne : c ≠ '#' := by
      rintro rfl
      exact absurd hc (by decide)
    rw [parseAttributes]
    rintro rest ⟨⟩
    exact hne rfl
  have hend : skipBlanks rest = some [] := by
    rw [← List.append_nil rest, skipBlanks_append hrest]
    rfl
  simp only [parse, String.toList_ofList, hc.skipBlanks_cons, Option.bind_eq_bind, Option.bind_some,
    hattributes, hv, hend]
  rfl

/-- **Every spelling of a document is read as that document**, and enables no extensions. -/
theorem Spelled.parse_ofList {v : Value} {cs : List Char} (h : Spelled v cs) :
    parse (String.ofList cs) = some ({}, v) := by
  have hvalue := h.parseValue_append (2 * cs.length + 2) [] nofun (by omega)
  rw [List.append_nil] at hvalue
  obtain ⟨c, tail, rfl, hc⟩ := h.exists_cons
  exact parse_of_parseValue hc hvalue nofun

/-! ## Compact forms -/

mutual

/-- The tags and fields of a datum have names that are words. The names of records and wrappers are
not written, and the keys of a table are texts. -/
def WellNamed : Datum → Prop
  | .tag name => isPlainWord name.toList
  | .tagged name payload => isPlainWord name.toList ∧ WellNamed payload
  | .record _ fields => WellNamedFields fields
  | .wrapper _ inner => WellNamed inner
  | .list items => WellNamedItems items
  | .present inner => WellNamed inner
  | .table entries => WellNamedEntries entries
  | .number _ | .text _ | .flag _ | .absent => True

/-- All items are well named. -/
def WellNamedItems : List Datum → Prop
  | [] => True
  | d :: rest => WellNamed d ∧ WellNamedItems rest

/-- All fields have names that are words, and hold what is well named. -/
def WellNamedFields : List (String × Datum) → Prop
  | [] => True
  | (name, d) :: rest => isPlainWord name.toList ∧ WellNamed d ∧ WellNamedFields rest

/-- All entries hold what is well named. -/
def WellNamedEntries : List (String × Datum) → Prop
  | [] => True
  | (_, d) :: rest => WellNamed d ∧ WellNamedEntries rest

end

lemma spelled_number (n : Int) : Spelled (.number n.repr) n.repr.toList := by
  obtain ⟨c, cs, heq, hc, hcs⟩ := exists_toList_repr n
  have hnumber := Spelled.number hc hcs
  rwa [← heq, String.ofList_toList] at hnumber

lemma spelled_word (name : String) (h : isPlainWord name.toList) :
    Spelled (.word ⟨name, false⟩) name.toList := by
  have hword := Spelled.word h
  rwa [String.ofList_toList] at hword

lemma spelledName_named (name : String) (h : isPlainWord name.toList) :
    SpelledName (some ⟨name, false⟩) name.toList := by
  have hname := SpelledName.named h
  rwa [String.ofList_toList] at hname

lemma blanks_nil : Blanks [] := nofun

/-- A single value in parentheses. -/
lemma spelled_wrapped {name : Option Word} {ns cs : List Char} {v : Value}
    (hname : SpelledName name ns) (hv : Spelled v cs) :
    Spelled (.tuple name [v]) (ns ++ '(' :: cs ++ [')']) := by
  have htuple := Spelled.tuple hname blanks_nil (.cons hv .last (.nil ')'))
  simpa using htuple

mutual

/-- **The compact form of a datum is a spelling of it.** -/
theorem spelled_compact : ∀ d : Datum, WellNamed d →
    Spelled (Value.ofDatum d) (Value.ofDatum d).compact
  | .number n, _ => spelled_number n
  | .text s, _ => .text s
  | .flag true, _ => spelled_word "true" (by decide)
  | .flag false, _ => spelled_word "false" (by decide)
  | .tag name, h => spelled_word name h
  | .tagged name payload, h =>
      spelled_wrapped (spelledName_named name h.1) (spelled_compact payload h.2)
  | .record _ [], _ => .unit
  | .record _ (f :: fields), h => by
      have hrecord := Spelled.record .unnamed blanks_nil (spelledFields_compact (f :: fields) h)
      exact hrecord
  | .wrapper _ inner, h => spelled_wrapped .unnamed (spelled_compact inner h)
  | .list items, h => by
      have hlist := Spelled.list blanks_nil (spelledItems_compact items h)
      exact hlist
  | .absent, _ => spelled_word "None" (by decide)
  | .present inner, h =>
      spelled_wrapped (spelledName_named "Some" (by decide)) (spelled_compact inner h)
  | .table entries, h => by
      have hmap := Spelled.map blanks_nil (spelledEntries_compact entries h)
      exact hmap

theorem spelledItems_compact : ∀ ds : List Datum, WellNamedItems ds →
    SpelledItems ']' (Value.ofItems ds) (compactItems (Value.ofItems ds) ++ [']'])
  | [], _ => .nil ']'
  | [d], h => .cons (spelled_compact d h.1) .last (.nil ']')
  | d :: e :: rest, h => by
      have hmore := spelledItems_compact (e :: rest) h.2
      have hcons := SpelledItems.cons (spelled_compact d h.1) (.comma blanks_nil) hmore
      simpa [Value.ofItems, compactItems] using hcons

theorem spelledFields_compact : ∀ fs : List (String × Datum), WellNamedFields fs →
    SpelledFields (Value.ofFields fs) (compactFields (Value.ofFields fs) ++ [')'])
  | [], _ => .nil
  | [(name, d)], h => by
      have hcons := SpelledFields.cons h.1 blanks_nil (spelled_compact d h.2.1) .last .nil
      simpa [Value.ofFields, compactFields, Word.chars] using hcons
  | (name, d) :: f :: rest, h => by
      have hmore := spelledFields_compact (f :: rest) h.2.2
      have hcons := SpelledFields.cons h.1 blanks_nil (spelled_compact d h.2.1) (.comma blanks_nil)
        hmore
      simpa [Value.ofFields, compactFields, Word.chars] using hcons

theorem spelledEntries_compact : ∀ es : List (String × Datum), WellNamedEntries es →
    SpelledEntries (Value.ofEntries es) (compactEntries (Value.ofEntries es) ++ ['\x7d'])
  | [], _ => .nil
  | [(key, d)], h => by
      have hcons := SpelledEntries.cons (.text key) blanks_nil (spelled_compact d h.1) .last .nil
      simpa [Value.ofEntries, compactEntries, Value.compact] using hcons
  | (key, d) :: e :: rest, h => by
      have hmore := spelledEntries_compact (e :: rest) h.2
      have hcons := SpelledEntries.cons (.text key) blanks_nil (spelled_compact d h.1)
        (.comma blanks_nil) hmore
      simpa [Value.ofEntries, compactEntries, Value.compact] using hcons

end

end ScriptTyping.Ron
