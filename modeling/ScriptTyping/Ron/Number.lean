import ScriptTyping.Reading.Word
import ScriptTyping.Text.Digits

/-!
# Numbers

A number is kept as it is written, and the reader decides what it may be.  As an integer it has
decimal digits, or binary, octal or hexadecimal ones after `0b`, `0o` or `0x`; underscores may stand
between and after digits.  Only a signed integer may have a sign.  Where a value is passed over
unread, a floating-point number will do as well.
-/

namespace ScriptTyping.Ron

/-- The characters of a number, once it has begun. -/
def isNumberChar (c : Char) : Bool :=
  c.isAlphanum || c == '_' || c == '.' || c == '+' || c == '-'

/-- The characters a number can begin with. -/
def isNumberStart (c : Char) : Bool := c.isDigit || c == '.' || c == '+' || c == '-'

/-- The value of digits in the given base that follow a number; underscores are passed over. -/
def digitsFrom? (base : Nat) : Nat → List Char → Option Nat
  | acc, [] => some acc
  | acc, c :: rest =>
    if c = '_' then digitsFrom? base acc rest
    else
      match Text.hexValue? c with
      | some d => if d < base then digitsFrom? base (acc * base + d) rest else none
      | none => none

/-- The value of a run of digits. There has to be one, and it must not begin with an underscore. -/
def digits? (base : Nat) : List Char → Option Nat
  | [] => none
  | c :: rest => if c = '_' then none else digitsFrom? base 0 (c :: rest)

/-- The value of an integer without sign. -/
def unsigned? : List Char → Option Nat
  | '0' :: 'b' :: rest => digits? 2 rest
  | '0' :: 'o' :: rest => digits? 8 rest
  | '0' :: 'x' :: rest => digits? 16 rest
  | cs => digits? 10 cs

/-- The value of an integer with or without sign. -/
def signed? : List Char → Option Int
  | '+' :: rest => (unsigned? rest).map Int.ofNat
  | '-' :: rest => (unsigned? rest).map fun n => -Int.ofNat n
  | cs => (unsigned? cs).map Int.ofNat

/-- A number as a natural number of 64 bits. -/
def natural? (lexeme : String) : Option UInt64 :=
  (unsigned? lexeme.toList).bind Word.ofNat?

/-- A number as a signed number of 64 bits. -/
def integer? (lexeme : String) : Option Int64 :=
  (signed? lexeme.toList).bind Word.ofInt?

/-- Whether characters are a floating-point number. Infinity and the number that is none may have a
sign. -/
def isFloat : List Char → Bool
  | '+' :: rest => Text.isUnsignedFloat rest || rest == ['i', 'n', 'f'] || rest == ['N', 'a', 'N']
  | '-' :: rest => Text.isUnsignedFloat rest || rest == ['i', 'n', 'f'] || rest == ['N', 'a', 'N']
  | cs => Text.isUnsignedFloat cs

/-- Whether a number begins with a sign. -/
def hasSign : List Char → Bool
  | '+' :: _ => true
  | '-' :: _ => true
  | _ => false

/-- Whether a number can be passed over unread. -/
def isNumber (lexeme : String) : Bool :=
  (if hasSign lexeme.toList then (integer? lexeme).isSome else (natural? lexeme).isSome)
    || isFloat lexeme.toList

end ScriptTyping.Ron
