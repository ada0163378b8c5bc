import StoryEngine.Json.Numeral
import StoryEngine.Json.Record

/-!
# Reading JSON text

A strict reader: one value, with blanks around it and between its tokens, and nothing else. What
the grammar allows but no value stands for becomes `Raw.unreadable`: an overflowing number, a string
with half of a surrogate pair, a container inside `maxDepth` others or more.
-/

namespace StoryEngine.Json.Raw

/-- How deep containers may nest and still be read. -/
def maxDepth : Nat := 127

/-- Blanks of the grammar. -/
def isSpace (c : Char) : Bool :=
  c = ' ' || c = '\t' || c = '\n' || c = '\r'

/-- The characters after the blanks. -/
def skipSpace (cs : List Char) : List Char :=
  cs.dropWhile isSpace

/-- Value of a hexadecimal digit. -/
def hexValue? (c : Char) : Option Nat :=
  if c.isDigit then some (c.toNat - '0'.toNat)
  else if 'a' ≤ c ∧ c ≤ 'f' then some (c.toNat - 'a'.toNat + 10)
  else if 'A' ≤ c ∧ c ≤ 'F' then some (c.toNat - 'A'.toNat + 10)
  else none

/-- Value of four hexadecimal digits. -/
def hexUnit? (a b c d : Char) : Option Nat := do
  let a ← hexValue? a
  let b ← hexValue? b
  let c ← hexValue? c
  let d ← hexValue? d
  pure (((a * 16 + b) * 16 + c) * 16 + d)

/-- The character that a short escape stands for. -/
def escaped? : Char → Option Char
  | '"' => some '"'
  | '\\' => some '\\'
  | '/' => some '/'
  | 'b' => some '\x08'
  | 'f' => some '\x0c'
  | 'n' => some '\n'
  | 'r' => some '\r'
  | 't' => some '\t'
  | _ => none

/-- A part of a string: a character, or a 16-bit unit written in hexadecimal. -/
inductive StringPart where
  | char (c : Char)
  | unit (code : Nat)

/-- Reads the parts of a string up to its closing quote. -/
def readParts : List Char → Option (List StringPart × List Char)
  | [] => none
  | '"' :: rest => some ([], rest)
  | '\\' :: 'u' :: a :: b :: c :: d :: rest => do
    let code ← hexUnit? a b c d
    let (parts, rest) ← readParts rest
    pure (.unit code :: parts, rest)
  | '\\' :: c :: rest => do
    let c ← escaped? c
    let (parts, rest) ← readParts rest
    pure (.char c :: parts, rest)
  | c :: rest =>
    if c.toNat < 0x20 then none
    else do
      let (parts, rest) ← readParts rest
      pure (.char c :: parts, rest)

/-- Whether a 16-bit unit opens a surrogate pair. -/
def isHighSurrogate (code : Nat) : Bool :=
  0xD800 ≤ code && code < 0xDC00

/-- Whether a 16-bit unit closes a surrogate pair. -/
def isLowSurrogate (code : Nat) : Bool :=
  0xDC00 ≤ code && code < 0xE000

/-- The characters of the parts of a string, if every surrogate has its partner. -/
def joinParts? : List StringPart → Option (List Char)
  | [] => some []
  | .char c :: parts => (joinParts? parts).map (c :: ·)
  | .unit high :: .unit low :: parts =>
    if isHighSurrogate high then
      if isLowSurrogate low then
        let code := 0x10000 + (high - 0xD800) * 0x400 + (low - 0xDC00)
        (joinParts? parts).map (Char.ofNat code :: ·)
      else none
    else if isLowSurrogate high then none
    else (joinParts? (.unit low :: parts)).map (Char.ofNat high :: ·)
  | .unit code :: parts =>
    if isHighSurrogate code || isLowSurrogate code then none
    else (joinParts? parts).map (Char.ofNat code :: ·)

/-- Reads a string after its opening quote; the text is absent where the string cannot be read. -/
def readString (cs : List Char) : Option (Option String × List Char) := do
  let (parts, rest) ← readParts cs
  pure ((joinParts? parts).map String.ofList, rest)

/-- Reads one or more digits. -/
def readDigits (cs : List Char) : Option (List Char × List Char) :=
  let digits := cs.takeWhile Char.isDigit
  if digits = [] then none else some (digits, cs.dropWhile Char.isDigit)

/-- Reads the whole part of a numeral, which has no leading zeros. -/
def readWhole (cs : List Char) : Option (List Char × List Char) := do
  let (digits, rest) ← readDigits cs
  if digits.head? = some '0' ∧ digits ≠ ['0'] then none else pure (digits, rest)

/-- Reads the fraction of a numeral, if there is one. -/
def readFraction : List Char → Option (Option (List Char) × List Char)
  | '.' :: rest => do
    let (digits, rest) ← readDigits rest
    pure (some digits, rest)
  | cs => some (none, cs)

/-- Reads the sign of an exponent, true for minus. -/
def readSign : List Char → Bool × List Char
  | '-' :: rest => (true, rest)
  | '+' :: rest => (false, rest)
  | cs => (false, cs)

/-- Reads the exponent of a numeral, if there is one. -/
def readExponent : List Char → Option (Option (Bool × List Char) × List Char)
  | 'e' :: rest | 'E' :: rest => do
    let (minus, rest) := readSign rest
    let (digits, rest) ← readDigits rest
    pure (some (minus, digits), rest)
  | cs => some (none, cs)

/-- Reads a numeral without its sign. -/
def readMagnitude (negative : Bool) (cs : List Char) : Option (Raw × List Char) := do
  let (whole, rest) ← readWhole cs
  let (fraction, rest) ← readFraction rest
  let (exponent, rest) ← readExponent rest
  let numeral : Numeral := ⟨negative, whole, fraction, exponent⟩
  pure ((numeral.value?.map value).getD unreadable, rest)

/-- Reads a numeral. -/
def readNumeral : List Char → Option (Raw × List Char)
  | '-' :: rest => readMagnitude true rest
  | cs => readMagnitude false cs

/-- The members of an object, if every name can be read. -/
def named? (members : List (Option String × Raw)) : Option (List (String × Raw)) :=
  members.mapM fun (name, member) => name.map (·, member)

/-- An array inside `depth` containers. -/
def arrayAt (depth : Nat) (items : List Raw) : Raw :=
  if depth < maxDepth then arr items else unreadable

/-- An object inside `depth` containers. -/
def objectAt (depth : Nat) (members : List (Option String × Raw)) : Raw :=
  if depth < maxDepth then ((named? members).map obj).getD unreadable else unreadable

mutual

/-- Reads one value inside `depth` containers. -/
def readValue : Nat → Nat → List Char → Option (Raw × List Char)
  | 0, _, _ => none
  | fuel + 1, depth, cs =>
    match skipSpace cs with
    | 'n' :: 'u' :: 'l' :: 'l' :: rest => some (value .null, rest)
    | 't' :: 'r' :: 'u' :: 'e' :: rest => some (value (.bool true), rest)
    | 'f' :: 'a' :: 'l' :: 's' :: 'e' :: rest => some (value (.bool false), rest)
    | '"' :: rest => do
      let (text, rest) ← readString rest
      pure ((text.map fun s => value (.str s)).getD unreadable, rest)
    | '[' :: rest =>
      match skipSpace rest with
      | ']' :: rest => some (arrayAt depth [], rest)
      | rest => do
        let (items, rest) ← readItems fuel (depth + 1) rest
        pure (arrayAt depth items, rest)
    | '\x7b' :: rest =>
      match skipSpace rest with
      | '\x7d' :: rest => some (objectAt depth [], rest)
      | rest => do
        let (members, rest) ← readMembers fuel (depth + 1) rest
        pure (objectAt depth members, rest)
    | rest => readNumeral rest

/-- Reads the items of an array up to its closing bracket. -/
def readItems : Nat → Nat → List Char → Option (List Raw × List Char)
  | 0, _, _ => none
  | fuel + 1, depth, cs => do
    let (item, rest) ← readValue fuel depth cs
    match skipSpace rest with
    | ']' :: rest => pure ([item], rest)
    | ',' :: rest =>
      let (items, rest) ← readItems fuel depth rest
      pure (item :: items, rest)
    | _ => none

/-- Reads the members of an object up to its closing brace. -/
def readMembers : Nat → Nat → List Char → Option (List (Option String × Raw) × List Char)
  | 0, _, _ => none
  | fuel + 1, depth, cs =>
    match skipSpace cs with
    | '"' :: rest => do
      let (name, rest) ← readString rest
      match skipSpace rest with
      | ':' :: rest =>
        let (member, rest) ← readValue fuel depth rest
        match skipSpace rest with
        | '\x7d' :: rest => pure ([(name, member)], rest)
        | ',' :: rest =>
          let (members, rest) ← readMembers fuel depth rest
          pure ((name, member) :: members, rest)
        | _ => none
      | _ => none
    | _ => none

end

/-- Reads a whole text. Two calls in a row take at least one character, which bounds the reader. -/
def ofText? (text : String) : Option Raw :=
  let cs := text.toList
  match readValue (2 * cs.length + 2) 0 cs with
  | some (raw, rest) => if skipSpace rest = [] then some raw else none
  | none => none

end StoryEngine.Json.Raw

namespace StoryEngine.Json

/-- Reads typed data from a text. -/
def decodeText {α : Type} (read : Raw → Decoded α) (text : String) : Decoded α :=
  match Raw.ofText? text with
  | some raw => read raw
  | none => .error .malformed

/-- The value of a JSON text. -/
def parse (text : String) : Decoded Json :=
  decodeText Raw.json text

end StoryEngine.Json
