import Mathlib.Tactic.Lemma
import Mathlib.Tactic.SplitIfs
import ScriptTyping.Ron.Parser
import ScriptTyping.Ron.Writer

/-!
# Lexemes read back

What is written of a text, a number and a word is read as the same text, number and word, and blanks
before a token are passed over.

An escape by code point is the one lexeme that is read digit by digit without being looked at as a
whole.  The digits of a code point are therefore followed from the first to the last, as the
induction on the digits of a number goes: all digits but the last are those of the number divided by
the base.
A code point has at most six hexadecimal digits, which is all that the scan allows.

Main statements: `scanText_escaped`, `natural?_repr`, `integer?_repr`, `word?_append` and
`skipBlanks_append`.
-/

namespace ScriptTyping.Ron

/-! ## Texts -/

lemma hexValue?_digitChar : ∀ n < 16, Text.hexValue? (Nat.digitChar n) = some n := by decide

lemma scanText_code_digit {value digits d : Nat} (hd : d < 16) (hroom : digits < 6)
    (rest : List Char) :
    scanText (.code value digits) (d.digitChar :: rest) =
      scanText (.code (16 * value + d) (digits + 1)) rest := by
  have hvalue := hexValue?_digitChar d hd
  have hbrace : d.digitChar ≠ '\x7d' := by
    intro h
    rw [h] at hvalue
    cases hvalue
  simp [scanText, EscapeState.step, hbrace, hroom, hvalue]

/-- The digits of a code point lead from nothing read to the whole number. -/
lemma scanText_code_toDigits (n : Nat) (hlen : (Nat.toDigits 16 n).length ≤ 6) (rest : List Char) :
    scanText (.code 0 0) (Nat.toDigits 16 n ++ rest) =
      scanText (.code n (Nat.toDigits 16 n).length) rest := by
  induction n using Nat.base_induction 16 (by decide) generalizing rest with
  | single m hm =>
      have hdigit := @scanText_code_digit 0 0 m hm (by decide) rest
      rw [Nat.mul_zero, Nat.zero_add] at hdigit
      rw [Nat.toDigits_of_lt_base hm]
      exact hdigit
  | digit m d hd hm ih =>
      have hsplit : Nat.toDigits 16 (16 * m + d) = Nat.toDigits 16 m ++ [d.digitChar] := by
        rw [← Nat.toDigits_append_toDigits (by decide) hm hd, Nat.toDigits_of_lt_base hd]
      rw [hsplit, List.length_append, List.length_singleton] at hlen ⊢
      rw [List.append_assoc, ih (by omega), List.singleton_append,
        scanText_code_digit hd (by omega)]

lemma charOfCode?_toNat (c : Char) : charOfCode? c.toNat = some c := by
  have hvalid : c.toNat.isValidChar := c.valid
  rw [charOfCode?, if_pos hvalid, Char.ofNat_toNat]

lemma length_toDigits_toNat (c : Char) : (Nat.toDigits 16 c.toNat).length ≤ 6 := by
  rw [Nat.length_toDigits_le_iff (by decide) (by decide)]
  have hvalid : c.toNat.isValidChar := c.valid
  unfold Nat.isValidChar at hvalid
  omega

lemma scanText_escapeCode (c : Char) (rest : List Char) :
    scanText .plain (Text.escapeCode c ++ rest) =
      (scanText .plain rest).map fun r => (c :: r.1, r.2) := by
  have hdigits : (Nat.toDigits 16 c.toNat).length ≠ 0 := Nat.ne_of_gt Nat.length_toDigits_pos
  have hopen : scanText .plain (Text.escapeCode c ++ rest) =
      scanText (.code 0 0) (Nat.toDigits 16 c.toNat ++ '\x7d' :: rest) := by
    simp [Text.escapeCode, scanText, EscapeState.step]
  rw [hopen, scanText_code_toDigits _ (length_toDigits_toNat c)]
  simp [scanText, EscapeState.step, hdigits, charOfCode?_toNat]

lemma scanText_shortEscape {c d : Char} (h : shortEscape? d = some c) (rest : List Char) :
    scanText .plain ('\\' :: d :: rest) = (scanText .plain rest).map fun r => (c :: r.1, r.2) := by
  have hx : d ≠ 'x' := by
    rintro rfl
    cases h
  have hu : d ≠ 'u' := by
    rintro rfl
    cases h
  simp [scanText, EscapeState.step, hx, hu, h]

/-- However a character is written, it is read as itself. -/
lemma scanText_escape (c : Char) (rest : List Char) :
    scanText .plain (Text.escape true c ++ rest) =
      (scanText .plain rest).map fun r => (c :: r.1, r.2) := by
  unfold Text.escape
  rw [if_pos (rfl : true = true)]
  split_ifs with hquote hslash hline hreturn htab hnull hsingle hcode
  · exact scanText_shortEscape (by rw [hquote]; rfl) rest
  · exact scanText_shortEscape (by rw [hslash]; rfl) rest
  · exact scanText_shortEscape (by rw [hline]; rfl) rest
  · exact scanText_shortEscape (by rw [hreturn]; rfl) rest
  · exact scanText_shortEscape (by rw [htab]; rfl) rest
  · exact scanText_shortEscape (by rw [hnull]; rfl) rest
  · exact scanText_shortEscape (by rw [hsingle]; rfl) rest
  · exact scanText_escapeCode c rest
  · simp [scanText, EscapeState.step, hquote, hslash]

/-- The characters of a text are read up to the closing quote, and what follows it is left. -/
theorem scanText_escaped (cs rest : List Char) :
    scanText .plain (cs.flatMap (Text.escape true) ++ '"' :: rest) = some (cs, rest) := by
  induction cs with
  | nil => simp [scanText]
  | cons c cs ih =>
      rw [List.flatMap_cons, List.append_assoc, scanText_escape, ih, Option.map_some]

/-! ## Numbers -/

lemma hexValue?_of_isDigit {c : Char} (h : c.isDigit) :
    Text.hexValue? c = some (c.toNat - '0'.toNat) := if_pos h

lemma digitsFrom?_of_isDigit {cs : List Char} (h : ∀ c ∈ cs, c.isDigit) (acc : Nat) :
    digitsFrom? 10 acc cs = some (Nat.ofDigitChars 10 cs acc) := by
  induction cs generalizing acc with
  | nil => rfl
  | cons c cs ih =>
      have hc : c.isDigit := h c List.mem_cons_self
      have hmark : c ≠ '_' := by
        rintro rfl
        cases hc
      have hlt : c.toNat - '0'.toNat < 10 := by
        have hbounds := hc
        simp only [Char.isDigit, Bool.and_eq_true, decide_eq_true_eq] at hbounds
        have hle : c.toNat ≤ 57 := UInt32.le_iff_toNat_le.mp hbounds.2
        have hzero : '0'.toNat = 48 := rfl
        omega
      rw [digitsFrom?, if_neg hmark, hexValue?_of_isDigit hc]
      simp only [if_pos hlt]
      rw [ih fun d hd => h d (List.mem_cons_of_mem c hd), Nat.ofDigitChars_cons,
        Nat.mul_comm acc 10]

lemma unsigned?_of_isDigit {cs : List Char} (h : ∀ c ∈ cs, c.isDigit) :
    unsigned? cs = digits? 10 cs := by
  -- a second character that is a digit opens no other base
  unfold unsigned?
  split
  · exact absurd (h 'b' (by simp)) (by decide)
  · exact absurd (h 'o' (by simp)) (by decide)
  · exact absurd (h 'x' (by simp)) (by decide)
  · rfl

lemma isDigit_of_mem_toDigits_ten {n : Nat} {c : Char} (h : c ∈ Nat.toDigits 10 n) : c.isDigit :=
  Nat.isDigit_of_mem_toDigits (by decide) (by decide) h

lemma unsigned?_toDigits (n : Nat) : unsigned? (Nat.toDigits 10 n) = some n := by
  have hdigit : ∀ c ∈ Nat.toDigits 10 n, c.isDigit := fun _ => isDigit_of_mem_toDigits_ten
  have hvalue := digitsFrom?_of_isDigit hdigit 0
  rw [Nat.ofDigitChars_ten_toDigits] at hvalue
  rw [unsigned?_of_isDigit hdigit]
  cases hcs : Nat.toDigits 10 n with
  | nil => exact absurd hcs Nat.toDigits_ne_nil
  | cons c cs =>
      rw [hcs] at hdigit hvalue
      have hmark : c ≠ '_' := by
        rintro rfl
        exact absurd (hdigit '_' List.mem_cons_self) (by decide)
      rw [digits?, if_neg hmark, hvalue]

lemma signed?_toDigits (n : Nat) : signed? (Nat.toDigits 10 n) = some (n : Int) := by
  have hdigit : ∀ c ∈ Nat.toDigits 10 n, c.isDigit := fun _ => isDigit_of_mem_toDigits_ten
  unfold signed?
  split
  · next h => exact absurd (hdigit '+' (by simp [h])) (by decide)
  · next h => exact absurd (hdigit '-' (by simp [h])) (by decide)
  · rw [unsigned?_toDigits]
    rfl

/-- A negative number is written as a sign before its digits. -/
lemma toList_repr_negSucc (n : Nat) :
    (Int.negSucc n).repr.toList = '-' :: Nat.toDigits 10 (n + 1) := by
  simp [Int.repr]

lemma toList_repr_ofNat (n : Nat) : (n : Int).repr.toList = Nat.toDigits 10 n := by
  simp [Int.repr]

lemma signed?_repr (n : Int) : signed? n.repr.toList = some n := by
  cases n with
  | ofNat n =>
      rw [Int.ofNat_eq_natCast, toList_repr_ofNat]
      exact signed?_toDigits n
  | negSucc n =>
      rw [toList_repr_negSucc, signed?, unsigned?_toDigits]
      rfl

/-- An unsigned word is read back from its digits. -/
theorem natural?_repr (w : UInt64) : natural? (w.toNat : Int).repr = some w := by
  rw [natural?, toList_repr_ofNat, unsigned?_toDigits, Option.bind_some,
    Word.ofNat?_eq_some_iff]

/-- A signed word is read back from its sign and digits, at the extremes too. -/
theorem integer?_repr (w : Int64) : integer? w.toInt.repr = some w := by
  rw [integer?, signed?_repr, Option.bind_some, Word.ofInt?_eq_some_iff]

lemma isNumberChar_of_isDigit {c : Char} (h : c.isDigit) : isNumberChar c := by
  simp [isNumberChar, Char.isAlphanum, h]

lemma isNumberStart_of_isDigit {c : Char} (h : c.isDigit) : isNumberStart c := by
  simp [isNumberStart, h]

/-- What is written of a number is one lexeme. -/
lemma exists_toList_repr (n : Int) :
    ∃ c cs, n.repr.toList = c :: cs ∧ isNumberStart c ∧ ∀ d ∈ cs, isNumberChar d := by
  cases n with
  | ofNat n =>
      rw [Int.ofNat_eq_natCast, toList_repr_ofNat]
      have hdigit : ∀ c ∈ Nat.toDigits 10 n, c.isDigit := fun _ => isDigit_of_mem_toDigits_ten
      cases hcs : Nat.toDigits 10 n with
      | nil => exact absurd hcs Nat.toDigits_ne_nil
      | cons c cs =>
          rw [hcs] at hdigit
          exact ⟨c, cs, rfl, isNumberStart_of_isDigit (hdigit c List.mem_cons_self),
            fun d hd => isNumberChar_of_isDigit (hdigit d (List.mem_cons_of_mem c hd))⟩
  | negSucc n =>
      exact ⟨'-', _, toList_repr_negSucc n, rfl,
        fun d hd => isNumberChar_of_isDigit (isDigit_of_mem_toDigits_ten hd)⟩

/-! ## Words -/

/-- Whether characters are a word that is not raw. -/
def isPlainWord : List Char → Bool
  | [] => false
  | c :: cs => isWordStart c && cs.all isWordChar

lemma takeWhile_append_of_all {p : Char → Bool} {cs rest : List Char} (hcs : ∀ c ∈ cs, p c)
    (hrest : ∀ c ∈ rest.head?, ¬ p c) :
    (cs ++ rest).takeWhile p = cs ∧ (cs ++ rest).dropWhile p = rest := by
  rw [List.takeWhile_append_of_pos hcs, List.dropWhile_append_of_pos hcs]
  cases rest with
  | nil => simp
  | cons c rest => simp [hrest c rfl]

/-- A word ends where its characters do, and a `#` would make another word of an `r`. -/
theorem word?_append {cs rest : List Char} (hcs : isPlainWord cs)
    (hrest : ∀ c ∈ rest.head?, ¬ isWordChar c ∧ c ≠ '#') :
    word? (cs ++ rest) = some (⟨String.ofList cs, false⟩, rest) := by
  cases cs with
  | nil => cases hcs
  | cons c cs =>
      simp only [isPlainWord, Bool.and_eq_true, List.all_eq_true] at hcs
      have hplain : word? (c :: cs ++ rest) = plainWord? (c :: cs ++ rest) := by
        unfold word?
        split
        · next tail heq =>
          cases cs with
          | nil =>
              obtain ⟨rfl, rfl⟩ := List.cons.inj heq
              exact absurd rfl (hrest '#' rfl).2
          | cons d cs =>
              obtain ⟨-, hd⟩ := List.cons.inj heq
              obtain ⟨rfl, -⟩ := List.cons.inj hd
              exact absurd (hcs.2 '#' List.mem_cons_self) (by decide)
        · rfl
      obtain ⟨htake, hdrop⟩ := takeWhile_append_of_all hcs.2 fun d hd => (hrest d hd).1
      rw [hplain, List.cons_append, plainWord?, if_pos hcs.1, htake, hdrop]

/-! ## Blanks -/

lemma skipBlanks_cons {c : Char} (hblank : ¬ isBlank c) (hslash : c ≠ '/') (rest : List Char) :
    skipBlanks (c :: rest) = some (c :: rest) := by
  unfold skipBlanks
  rw [skipBlanksFrom]
  · rw [if_neg hblank]
  all_goals simp [hslash]

lemma skipBlanks_append {bs : List Char} (hbs : ∀ c ∈ bs, isBlank c) (rest : List Char) :
    skipBlanks (bs ++ rest) = skipBlanks rest := by
  induction bs with
  | nil => rfl
  | cons b bs ih =>
      have hb : isBlank b := hbs b List.mem_cons_self
      have hslash : b ≠ '/' := by
        rintro rfl
        cases hb
      rw [← ih fun c hc => hbs c (List.mem_cons_of_mem b hc)]
      unfold skipBlanks
      rw [List.cons_append, skipBlanksFrom]
      · rw [if_pos hb]
      all_goals simp [hslash]

end ScriptTyping.Ron
