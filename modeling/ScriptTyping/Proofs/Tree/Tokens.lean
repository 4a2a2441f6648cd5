import ScriptTyping.Proofs.Ron.Spelling
import ScriptTyping.Proofs.Typing.Structure

/-!
# The tokens of an expression

The text of an expression is the run of its tokens with nothing between them.  Symbols of operators
start like other symbols, a minus is an operator or the sign of a number, and a string may hold
quotes, symbols and parentheses.  There is only one way to take the text apart all the same, and the
tokens of an expression can be told from its text.

The text is read from left to right.  At each point there is room either for an operand or for an
operator, and the token before tells for which (`Token.next`).  So a minus is a sign where an
operand has to come.  A word ends with its last letter or digit, since an operator or a closing
parenthesis comes next.  A symbol like `<` is not the first half of `<=`, since no operand starts
with an equals sign.

`Token.scan` reads a single token in this way, and `Token.scan_spelling` says that it finds the one
that was written.  Two runs of tokens with the same text are then the same by induction on the
tokens (`Token.eq_of_spell_eq`).

Main statement: `Expr.text_determines_tokens`.
-/

namespace ScriptTyping

/-! ## Tokens -/

/-- A token of an expression, without its place. -/
inductive Token where
  | name (text : String)
  | int (value : Int64)
  | string (value : String)
  | bool (value : Bool)
  | operator (op : Operator)
  | opening
  | closing
deriving DecidableEq

/-- The token of a name or literal. -/
def Term.token : Term → Token
  | name n => .name n.text
  | int l => .int l.value
  | string l => .string l.value
  | bool l => .bool l.value

/-- The tokens of an expression, from left to right. -/
def Expr.tokens : Expr → List Token
  | term tm => [tm.token]
  | binary lhs ops rhs _ => lhs.tokens ++ ops.map (fun op => .operator op.value) ++ rhs.tokens
  | paren inner _ => .opening :: (inner.tokens ++ [.closing])

/-- A word of letters, digits and underscores that does not start with a digit and is not one of the
truth values. -/
def isIdentifier (s : String) : Bool :=
  Ron.isPlainWord s.toList && s != "true" && s != "false"

/-- What there is room for at a point of the text. -/
inductive Slot where
  | operand
  | operator

namespace Token

/-- The characters of a token. -/
def spelling : Token → List Char
  | name text => text.toList
  | int value => value.toInt.repr.toList
  | string value => (literalText value).toList
  | bool value => (if value then "true" else "false").toList
  | operator op => op.symbol.toList
  | opening => ['(']
  | closing => [')']

/-- The characters of a run of tokens. -/
def spell (ts : List Token) : List Char := ts.flatMap spelling

/-- What there is room for after a token. -/
def next : Token → Slot
  | operator _ | opening => .operand
  | name _ | int _ | string _ | bool _ | closing => .operator

/-- The token may stand where there is room for an operand or for an operator. -/
def Fits : Slot → Token → Prop
  | .operand, name text => isIdentifier text
  | .operand, int _ | .operand, string _ | .operand, bool _ | .operand, opening => True
  | .operator, operator _ | .operator, closing => True
  | _, _ => False

/-- Each token of the run has room, the first one in the given slot, and no operand is missing at
the end. -/
def Runs : Slot → List Token → Prop
  | p, [] => p = .operator
  | p, τ :: ts => τ.Fits p ∧ Runs τ.next ts

end Token

/-- What is known of the first character in a slot: no operand starts with an equals sign, and an
operator does not go on with the word before it. -/
def Slot.Starts : Slot → Char → Prop
  | operand, c => c ≠ '='
  | operator, c => ¬ Ron.isWordChar c

instance : ∀ p c, Decidable (Slot.Starts p c)
  | .operand, c => inferInstanceAs (Decidable (c ≠ '='))
  | .operator, c => inferInstanceAs (Decidable (¬ Ron.isWordChar c))

/-! ## Reading a token -/

/-- The contents of a string literal up to the closing quote, and what follows the quote. -/
def scanLiteral : List Char → Option (List Char × List Char)
  | [] | ['\\'] => none
  | '"' :: rest => some ([], rest)
  | '\\' :: c :: rest => (scanLiteral rest).map fun found => (c :: found.1, found.2)
  | c :: rest => (scanLiteral rest).map fun found => (c :: found.1, found.2)

namespace Token

/-- The token that is written as a word, with or without a sign. -/
def ofWord? (w : List Char) : Option Token :=
  if Ron.isPlainWord w then
    some <| if w = "true".toList then .bool true else if w = "false".toList then .bool false
      else .name (String.ofList w)
  else (Ron.integer? (String.ofList w)).map .int

/-- Reads a token where an operand has to come. -/
def scanOperand : List Char → Option (Token × List Char)
  | '(' :: rest => some (.opening, rest)
  | '"' :: rest => (scanLiteral rest).map fun found => (.string (String.ofList found.1), found.2)
  | '-' :: rest =>
    (ofWord? ('-' :: rest.takeWhile Ron.isWordChar)).map (·, rest.dropWhile Ron.isWordChar)
  | cs => (ofWord? (cs.takeWhile Ron.isWordChar)).map (·, cs.dropWhile Ron.isWordChar)

/-- Reads a token where an operator has to come.  The long symbols are tried first. -/
def scanOperator : List Char → Option (Token × List Char)
  | ')' :: rest => some (.closing, rest)
  | cs =>
    (Operator.all.reverse.find? fun op => op.symbol.toList.isPrefixOf cs).map fun op =>
      (.operator op, cs.drop op.symbol.toList.length)

/-- Reads a token. -/
def scan : Slot → List Char → Option (Token × List Char)
  | .operand => scanOperand
  | .operator => scanOperator

end Token

/-- A string literal is read up to the quote that ends it, whatever comes after it. -/
lemma scanLiteral_escapeLiteral (cs rest : List Char) :
    scanLiteral (escapeLiteral cs ++ '"' :: rest) = some (cs, rest) := by
  induction cs with
  | nil => rfl
  | cons c cs ih =>
      by_cases hc : c = '"' ∨ c = '\\'
      · simp [escapeLiteral, hc, scanLiteral, ih]
      · rw [escapeLiteral, if_neg hc, List.cons_append, scanLiteral, ih, Option.map_some]
        all_goals simp_all

lemma toList_literalText (s : String) :
    (literalText s).toList = '"' :: (escapeLiteral s.toList ++ ['"']) := by
  simp [literalText]

lemma Ron.isWordChar_of_isDigit {c : Char} (h : c.isDigit) : Ron.isWordChar c := by
  simp [Ron.isWordChar, Char.isAlphanum, h]

lemma Ron.isWordChar_of_isWordStart {c : Char} (h : Ron.isWordStart c) : Ron.isWordChar c := by
  simp only [Ron.isWordStart, Bool.or_eq_true] at h
  rcases h with h | h <;> simp [Ron.isWordChar, Char.isAlphanum, h]

namespace Token

variable {p : Slot} {τ : Token} {w rest : List Char} {ts ts' : List Token}

lemma scanOperand_word (hne : w ≠ []) (hw : ∀ c ∈ w, Ron.isWordChar c)
    (hrest : ∀ c ∈ rest.head?, ¬ Ron.isWordChar c) :
    scanOperand (w ++ rest) = (ofWord? w).map (·, rest) := by
  obtain ⟨htake, hdrop⟩ := Ron.takeWhile_append_of_all hw hrest
  cases w with
  | nil => exact absurd rfl hne
  | cons c w =>
      have hc : Ron.isWordChar c := hw c List.mem_cons_self
      rw [List.cons_append] at htake hdrop
      rw [List.cons_append, scanOperand, htake, hdrop]
      all_goals
        rintro _ ⟨rfl, -⟩
        exact absurd hc (by decide)

lemma scanOperand_minus (hw : ∀ c ∈ w, Ron.isWordChar c)
    (hrest : ∀ c ∈ rest.head?, ¬ Ron.isWordChar c) :
    scanOperand ('-' :: (w ++ rest)) = (ofWord? ('-' :: w)).map (·, rest) := by
  obtain ⟨htake, hdrop⟩ := Ron.takeWhile_append_of_all hw hrest
  rw [scanOperand, htake, hdrop]

lemma scanOperator_symbol (op : Operator) (hrest : ∀ c ∈ rest.head?, c ≠ '=') :
    scanOperator (op.symbol.toList ++ rest) = some (.operator op, rest) := by
  have hhead : ¬ ['='].isPrefixOf rest := by
    cases rest with
    | nil => simp
    | cons c rest =>
        have hc : c ≠ '=' := hrest c rfl
        simp [List.isPrefixOf, hc.symm]
  cases op <;> simp [scanOperator, Operator.symbol, Operator.all, hhead]

lemma ofWord?_repr (n : Int64) : ofWord? n.toInt.repr.toList = some (.int n) := by
  obtain ⟨c, cs, hcs, hc, -⟩ := Ron.exists_toList_repr n.toInt
  have hplain : ¬ Ron.isPlainWord n.toInt.repr.toList := by
    simp [hcs, Ron.isPlainWord, Ron.not_isWordStart_of_isNumberStart hc]
  rw [ofWord?, if_neg hplain, String.ofList_toList, Ron.integer?_repr, Option.map_some]

/-- Reading finds the number that was written, as one token with its sign. -/
lemma scanOperand_int (n : Int64) (hrest : ∀ c ∈ rest.head?, ¬ Ron.isWordChar c) :
    scanOperand (n.toInt.repr.toList ++ rest) = some (.int n, rest) := by
  have hread := ofWord?_repr n
  have hword : ∀ k, ∀ c ∈ Nat.toDigits 10 k, Ron.isWordChar c := fun k c hc =>
    Ron.isWordChar_of_isDigit (Ron.isDigit_of_mem_toDigits_ten hc)
  cases hn : n.toInt with
  | ofNat k =>
      rw [hn, Int.ofNat_eq_natCast, Ron.toList_repr_ofNat] at hread
      rw [Int.ofNat_eq_natCast, Ron.toList_repr_ofNat,
        scanOperand_word Nat.toDigits_ne_nil (hword k) hrest, hread, Option.map_some]
  | negSucc k =>
      rw [hn, Ron.toList_repr_negSucc] at hread
      rw [Ron.toList_repr_negSucc, List.cons_append, scanOperand_minus (hword (k + 1)) hrest, hread,
        Option.map_some]

lemma isWordChar_of_isPlainWord (h : Ron.isPlainWord w) : ∀ c ∈ w, Ron.isWordChar c := by
  cases w with
  | nil => simp
  | cons c w =>
      simp only [Ron.isPlainWord, Bool.and_eq_true, List.all_eq_true] at h
      simpa using ⟨Ron.isWordChar_of_isWordStart h.1, h.2⟩

/-- Reading finds the truth value or name that was written as a word. -/
lemma scanOperand_plainWord (hw : Ron.isPlainWord w)
    (hrest : ∀ c ∈ rest.head?, ¬ Ron.isWordChar c) :
    scanOperand (w ++ rest) = some (if w = "true".toList then .bool true
      else if w = "false".toList then .bool false else .name (String.ofList w), rest) := by
  have hne : w ≠ [] := by
    rintro rfl
    cases hw
  rw [scanOperand_word hne (isWordChar_of_isPlainWord hw) hrest, ofWord?, if_pos hw,
    Option.map_some]

/-- **One token is read back**: if what follows it starts as it may, the token is found, and it ends
where it should. -/
lemma scan_spelling (hfits : τ.Fits p) (hrest : ∀ c ∈ rest.head?, τ.next.Starts c) :
    scan p (τ.spelling ++ rest) = some (τ, rest) := by
  cases p with
  | operand =>
      cases τ with
      | name text =>
          have hid : isIdentifier text := hfits
          simp only [isIdentifier, Bool.and_eq_true, bne_iff_ne, ne_eq] at hid
          obtain ⟨⟨hplain, htrue⟩, hfalse⟩ := hid
          show scanOperand (text.toList ++ rest) = _
          rw [scanOperand_plainWord hplain hrest, if_neg (String.toList_inj.not.2 htrue),
            if_neg (String.toList_inj.not.2 hfalse), String.ofList_toList]
      | int value => exact scanOperand_int value hrest
      | string value =>
          have hread := scanLiteral_escapeLiteral value.toList rest
          show scanOperand ((literalText value).toList ++ rest) = _
          simp [toList_literalText, scanOperand, hread]
      | bool value =>
          cases value with
          | true => exact scanOperand_plainWord (w := "true".toList) (by decide) hrest
          | false => exact scanOperand_plainWord (w := "false".toList) (by decide) hrest
      | opening => rfl
      | operator op => exact hfits.elim
      | closing => exact hfits.elim
  | operator =>
      cases τ with
      | operator op => exact scanOperator_symbol op hrest
      | closing => rfl
      | name _ | int _ | string _ | bool _ | opening => exact hfits.elim

/-! ## Runs of tokens -/

lemma isPlainWord_of_isIdentifier {s : String} (h : isIdentifier s) :
    Ron.isPlainWord s.toList := by
  simp only [isIdentifier, Bool.and_eq_true] at h
  exact h.1.1

/-- A token has a first character, one that its slot allows. -/
lemma exists_spelling (hfits : τ.Fits p) : ∃ c cs, τ.spelling = c :: cs ∧ p.Starts c := by
  cases p with
  | operand =>
      cases τ with
      | name text =>
          have hplain := isPlainWord_of_isIdentifier hfits
          obtain ⟨c, cs, hcs, hc⟩ := Ron.exists_cons_of_isPlainWord hplain
          refine ⟨c, cs, hcs, ?_⟩
          rintro rfl
          exact absurd hc (by decide)
      | int value =>
          obtain ⟨c, cs, hcs, hc, -⟩ := Ron.exists_toList_repr value.toInt
          refine ⟨c, cs, hcs, ?_⟩
          rintro rfl
          exact absurd hc (by decide)
      | string value => exact ⟨'"', _, toList_literalText value, by decide⟩
      | bool value =>
          cases value with
          | true => exact ⟨'t', ['r', 'u', 'e'], rfl, by decide⟩
          | false => exact ⟨'f', ['a', 'l', 's', 'e'], rfl, by decide⟩
      | opening => exact ⟨'(', [], rfl, by decide⟩
      | operator op => exact hfits.elim
      | closing => exact hfits.elim
  | operator =>
      cases τ with
      | operator op =>
          have hstart : op.symbol.toList.head?.any (fun c => !Ron.isWordChar c) := by
            cases op <;> decide
          obtain ⟨c, hhead, hc⟩ := (Option.any_eq_true _ _).1 hstart
          obtain ⟨cs, hcs⟩ := List.head?_eq_some_iff.1 hhead
          exact ⟨c, cs, hcs, by simpa [Slot.Starts] using hc⟩
      | closing => exact ⟨')', [], rfl, by decide⟩
      | name _ | int _ | string _ | bool _ | opening => exact hfits.elim

/-- The text of a run starts as its slot says. -/
lemma Runs.starts (h : Runs p ts) : ∀ c ∈ (spell ts).head?, p.Starts c := by
  cases ts with
  | nil => simp [spell]
  | cons τ ts =>
      obtain ⟨c, cs, hτ, hc⟩ := exists_spelling h.1
      simpa [spell, hτ] using hc

lemma spell_cons : spell (τ :: ts) = τ.spelling ++ spell ts := rfl

lemma Runs.scan_spell (h : Runs p (τ :: ts)) : scan p (spell (τ :: ts)) = some (τ, spell ts) :=
  scan_spelling h.1 (Runs.starts h.2)

lemma Runs.spell_ne_nil (h : Runs p (τ :: ts)) : spell (τ :: ts) ≠ [] := by
  obtain ⟨c, cs, hτ, -⟩ := exists_spelling h.1
  simp [spell_cons, hτ]

/-- **The text of a run of tokens determines the tokens.** -/
lemma eq_of_spell_eq (h : Runs p ts) (h' : Runs p ts') (htext : spell ts = spell ts') :
    ts = ts' := by
  -- The first token is read off the text, and with it the slot for the rest.
  induction ts generalizing p ts' with
  | nil =>
      cases ts' with
      | nil => rfl
      | cons τ' ts' => exact absurd htext.symm h'.spell_ne_nil
  | cons τ ts ih =>
      cases ts' with
      | nil => exact absurd htext h.spell_ne_nil
      | cons τ' ts' =>
          have hscan : some (τ, spell ts) = some (τ', spell ts') := by
            rw [← h.scan_spell, ← h'.scan_spell, htext]
          obtain ⟨rfl, hrest⟩ := Prod.mk.inj (Option.some.inj hscan)
          rw [ih h.2 h'.2 hrest]

end Token

/-! ## Expressions -/

lemma Term.toList_text (tm : Term) : tm.text.toList = tm.token.spelling := by
  cases tm <;> rfl

namespace Expr

variable {e : Expr}

/-- The text of a well-formed expression is the text of its tokens. -/
lemma WellFormed.toList_text (he : e.WellFormed) : e.text.toList = Token.spell e.tokens := by
  induction e with
  | term tm => simp [text, tokens, Token.spell, Term.toList_text]
  | paren inner span ih =>
      have hinner := ih he
      simp [text, tokens, Token.spell, Token.spelling, hinner]
  | binary lhs ops rhs span ihl ihr =>
      obtain ⟨⟨op, rfl⟩, hlhs, hrhs⟩ := wellFormed_binary_iff.1 he
      simp [text, tokens, Token.spell, Token.spelling, ihl hlhs, ihr hrhs, String.join]

/-- The tokens of an expression fit where an operand has to come. -/
lemma WellFormed.runs_tokens (he : e.WellFormed) (hnames : ∀ n ∈ e.names, isIdentifier n.text)
    (ts : List Token) (h : Token.Runs .operator ts) : Token.Runs .operand (e.tokens ++ ts) := by
  induction e generalizing ts with
  | term tm =>
      cases tm with
      | name n => exact ⟨hnames n (by simp [names]), h⟩
      | int _ | string _ | bool _ => exact ⟨trivial, h⟩
  | paren inner span ih =>
      have hinner := ih he hnames (.closing :: ts) ⟨trivial, h⟩
      rw [tokens, List.cons_append, List.append_assoc]
      exact ⟨trivial, hinner⟩
  | binary lhs ops rhs span ihl ihr =>
      obtain ⟨⟨op, rfl⟩, hlhs, hrhs⟩ := wellFormed_binary_iff.1 he
      simp only [names, List.mem_append, or_imp, forall_and] at hnames
      have hright := ihr hrhs hnames.2 ts h
      have hleft := ihl hlhs hnames.1 (.operator op.value :: (rhs.tokens ++ ts)) ⟨trivial, hright⟩
      simpa [tokens] using hleft

end Expr

/-- A string literal ends where its closing quote is, and its contents can be told. -/
lemma literalText_append_inj {s s' u u' : String}
    (h : literalText s ++ u = literalText s' ++ u') : s = s' ∧ u = u' := by
  have hread : ∀ s u : String, scanLiteral ((literalText s ++ u).toList.drop 1) =
      some (s.toList, u.toList) := by
    intro s u
    simp [toList_literalText, scanLiteral_escapeLiteral]
  have hsame : some (s.toList, u.toList) = some (s'.toList, u'.toList) := by
    rw [← hread, ← hread, h]
  obtain ⟨hs, hu⟩ := Prod.mk.inj (Option.some.inj hsame)
  exact ⟨String.toList_inj.1 hs, String.toList_inj.1 hu⟩

/-- **The text of an expression determines its tokens.**

Take two expressions in which every binary node has one operator and every name is an identifier.
If they have the same text, they have the same tokens in the same order: names, values of literals,
operators and parentheses.  Nothing is asked of the numbers, which may be negative, or of the
contents of the strings.

Besides, the text of a string literal determines its contents and ends by itself: if something is
written after each of two literals and the texts agree, the two literals have the same contents and
what is written after them is the same. -/
theorem Expr.text_determines_tokens :
    (∀ e f : Expr, e.WellFormed → f.WellFormed → (∀ n ∈ e.names, isIdentifier n.text) →
      (∀ n ∈ f.names, isIdentifier n.text) → e.text = f.text → e.tokens = f.tokens) ∧
    ∀ s s' u u' : String, literalText s ++ u = literalText s' ++ u' → s = s' ∧ u = u' := by
  refine ⟨?_, fun s s' u u' => literalText_append_inj⟩
  intro e f he hf hnames hnames' htext
  have hruns := he.runs_tokens hnames [] rfl
  have hruns' := hf.runs_tokens hnames' [] rfl
  rw [List.append_nil] at hruns hruns'
  apply Token.eq_of_spell_eq hruns hruns'
  rw [← he.toList_text, ← hf.toList_text, htext]

/-- The expression `a-"\"-("--1`, taken from left to right. -/
def groupedLeft : Expr :=
  .binary
    (.binary (.term (.name ⟨"a", .ofLine 1⟩)) [⟨.subtract, .ofLine 1⟩]
      (.term (.string ⟨"\"-(", .ofLine 1⟩)) (.ofLine 1))
    [⟨.subtract, .ofLine 1⟩] (.term (.int ⟨-1, .ofLine 1⟩)) (.ofLine 1)

/-- The same text, taken from right to left. -/
def groupedRight : Expr :=
  .binary (.term (.name ⟨"a", .ofLine 1⟩)) [⟨.subtract, .ofLine 1⟩]
    (.binary (.term (.string ⟨"\"-(", .ofLine 1⟩)) [⟨.subtract, .ofLine 1⟩]
      (.term (.int ⟨-1, .ofLine 1⟩)) (.ofLine 1)) (.ofLine 1)

theorem Expr.tokens_groupedLeft :
    groupedLeft.WellFormed ∧ groupedRight.WellFormed ∧ groupedLeft ≠ groupedRight ∧
      groupedLeft.text = groupedRight.text ∧ groupedLeft.tokens = groupedRight.tokens ∧
      literalText "a\\" ++ "b\"" ≠ literalText "a\\\"b" ++ "" := by
  have hleft : groupedLeft.WellFormed := by decide
  have hright : groupedRight.WellFormed := by decide
  have htext : groupedLeft.text = groupedRight.text := by
    simp [groupedLeft, groupedRight, Expr.text, String.join, String.append_assoc]
  refine ⟨hleft, hright, by decide, htext, ?_, ?_⟩
  · apply Expr.text_determines_tokens.1 groupedLeft groupedRight hleft hright _ _ htext
    · decide
    · decide
  · intro h
    obtain ⟨hs, -⟩ := Expr.text_determines_tokens.2 _ _ _ _ h
    exact absurd hs (by decide)

end ScriptTyping
