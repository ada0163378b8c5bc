import StoryEngine.Binary64.Shortest
import StoryEngine.Json.Basic

/-!
# Compact JSON text

The text of a value without blanks, as request bodies carry it. Quotes, backslashes and control
characters are escaped and everything else stands as it is.
-/

namespace StoryEngine.Json

/-- Floating-point numbers are positional from `0.00001` to below `10 ^ 16`, and a whole number ends
in `.0`. -/
def floatLayout : Binary64.Layout where
  least := -5
  greatest := 15
  point := '.'
  exponentMark := 'e'
  wholeFraction := ['0']

/-- The text of a floating-point number; JSON has none for an infinity. -/
def floatChars : Binary64 → List Char
  | .finite negative significand exponent =>
    let magnitude :=
      if significand = 0 then
        floatLayout.render 0 0
      else
        let (digits, p) := Binary64.shortest significand exponent
        floatLayout.render digits p
    if negative then '-' :: magnitude else magnitude
  | .infinite _ | .nan => "null".toList

/-- A hexadecimal digit. -/
def hexDigit (n : Nat) : Char :=
  Nat.digitChar n

/-- One character inside a JSON string. -/
def escapeChar (c : Char) : List Char :=
  if c = '"' || c = '\\' then ['\\', c]
  else if c = '\x08' then ['\\', 'b']
  else if c = '\x0c' then ['\\', 'f']
  else if c = '\n' then ['\\', 'n']
  else if c = '\r' then ['\\', 'r']
  else if c = '\t' then ['\\', 't']
  else if c.toNat < 0x20 then
    ['\\', 'u', '0', '0', hexDigit (c.toNat / 16), hexDigit (c.toNat % 16)]
  else [c]

/-- A JSON string. -/
def stringChars (s : String) : List Char :=
  '"' :: s.toList.flatMap escapeChar ++ ['"']

/-- An integer in decimal. -/
def intChars (n : Int) : List Char :=
  if n < 0 then '-' :: Binary64.decimalDigits n.natAbs else Binary64.decimalDigits n.natAbs

mutual

/-- The characters of a value. -/
def chars : Json → List Char
  | null => "null".toList
  | bool b => if b then "true".toList else "false".toList
  | int n => intChars n
  | float x => floatChars x
  | str s => stringChars s
  | arr [] => ['[', ']']
  | arr (item :: items) => '[' :: chars item ++ moreItems items
  | obj [] => ['\x7b', '\x7d']
  | obj ((name, value) :: members) =>
    '\x7b' :: stringChars name ++ ':' :: chars value ++ moreMembers members

/-- The items after the first one, with the closing bracket. -/
def moreItems : List Json → List Char
  | [] => [']']
  | item :: items => ',' :: chars item ++ moreItems items

/-- The members after the first one, with the closing brace. -/
def moreMembers : List (String × Json) → List Char
  | [] => ['\x7d']
  | (name, value) :: members =>
    ',' :: stringChars name ++ ':' :: chars value ++ moreMembers members

end

/-- The compact text of a value. -/
def compact (value : Json) : String :=
  String.ofList (chars value)

end StoryEngine.Json
