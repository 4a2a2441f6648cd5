/-!
# Digits

The value of a hexadecimal digit, and the form of numbers with a point and an exponent.
-/

namespace ScriptTyping.Text

/-- The value of a hexadecimal digit. -/
def hexValue? (c : Char) : Option Nat :=
  if c.isDigit then some (c.toNat - '0'.toNat)
  else if 'a' ≤ c ∧ c ≤ 'f' then some (c.toNat - 'a'.toNat + 10)
  else if 'A' ≤ c ∧ c ≤ 'F' then some (c.toNat - 'A'.toNat + 10)
  else none

/-- Whether characters are the digits of an exponent, which may have a sign. -/
def isExponent : List Char → Bool
  | '+' :: rest => !rest.isEmpty && rest.all Char.isDigit
  | '-' :: rest => !rest.isEmpty && rest.all Char.isDigit
  | cs => !cs.isEmpty && cs.all Char.isDigit

/-- Whether characters are empty or an exponent after its mark. -/
def isExponentPart : List Char → Bool
  | [] => true
  | c :: rest => (c == 'e' || c == 'E') && isExponent rest

/-- Whether characters are a floating-point number without sign: digits on at least one side of a
point that may be left out, and an exponent that may be left out. -/
def isUnsignedFloat (cs : List Char) : Bool :=
  let whole := cs.takeWhile Char.isDigit
  match cs.dropWhile Char.isDigit with
  | '.' :: rest =>
    !(whole.isEmpty && (rest.takeWhile Char.isDigit).isEmpty) &&
      isExponentPart (rest.dropWhile Char.isDigit)
  | rest => !whole.isEmpty && isExponentPart rest

end ScriptTyping.Text
