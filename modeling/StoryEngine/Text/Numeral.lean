/-!
# Decimal numerals

Unsigned decimal numerals as settings spell them: an optional plus sign and one or more digits,
with a bound on the value.
-/

namespace StoryEngine.Text

/-- Value of one decimal digit. -/
def digitValue (c : Char) : Nat :=
  c.toNat - '0'.toNat

/-- Value of a row of decimal digits, the most significant first. -/
def digitsValue (digits : List Char) : Nat :=
  digits.foldl (fun value c => 10 * value + digitValue c) 0

/-- The digits of a numeral, without its optional plus sign. -/
def unsigned : List Char → List Char
  | '+' :: digits => digits
  | digits => digits

/-- Reads an unsigned numeral whose value is at most `limit`. -/
def readUnsigned? (limit : Nat) (s : String) : Option Nat :=
  let digits := unsigned s.toList
  if digits ≠ [] ∧ digits.all Char.isDigit ∧ digitsValue digits ≤ limit then
    some (digitsValue digits)
  else
    none

end StoryEngine.Text
