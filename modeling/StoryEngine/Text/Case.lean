import StoryEngine.Text.CaseMapping
import StoryEngine.Text.CaseProperty

/-!
# Letter case of texts

Full lower-casing and upper-casing. Upper-casing looks at each character alone and may write
several characters for one. Lower-casing depends on context for one letter only: a capital sigma
that ends a word becomes the final form.
-/

namespace StoryEngine.Text

/-- Upper-case form of one character. -/
def upperChar (c : Char) : List Char :=
  if c.toNat < 0x80 then
    [c.toUpper]
  else match upperSequences.lookup c.toNat with
    | some codes => codes.map Char.ofNat
    | none => [Char.ofNat (mapByRuns upperRuns c.toNat)]

/-- Lower-case form of one character outside any word. -/
def lowerChar (c : Char) : List Char :=
  if c.toNat < 0x80 then
    [c.toLower]
  else if c = 'İ' then
    ['i', '\u0307']
  else
    [Char.ofNat (mapByRuns lowerRuns c.toNat)]

/-- Characters that a word may hold without being part of its letters. -/
def isCaseIgnorable (c : Char) : Bool :=
  if c.toNat < 0x80 then "'.:^`".contains c else inRanges caseIgnorableRanges c.toNat

/-- Letters with a case, among the characters that are not case-ignorable. -/
def isCased (c : Char) : Bool :=
  if c.toNat < 0x80 then c.isAlpha else inRanges casedRanges c.toNat

/-- Whether the first character that counts is a cased letter. -/
def startsCased (cs : List Char) : Bool :=
  match cs.dropWhile isCaseIgnorable with
  | [] => false
  | c :: _ => isCased c

/-- Lower-cases the characters that follow `before`, which is held in reverse. -/
def lowerFrom (before : List Char) : List Char → List Char
  | [] => []
  | c :: rest =>
    let lowered :=
      if c = 'Σ' then
        if startsCased before && !startsCased rest then ['ς'] else ['σ']
      else
        lowerChar c
    lowered ++ lowerFrom (c :: before) rest

/-- Lower-case form of a text. -/
def lowercase (s : String) : String :=
  String.ofList (lowerFrom [] s.toList)

/-- Upper-case form of a text. -/
def uppercase (s : String) : String :=
  String.ofList (s.toList.flatMap upperChar)

end StoryEngine.Text
