/-
Labels.

A name on the network consists of labels with dots between them. A label that holds more than
ASCII has to be one that cannot be mistaken for another: composed, made of letters that are
allowed, without hyphens or marks where they would be misread, without characters out of their
context, and running in one direction. The checks are made in a fixed order, and the first one
that fails tells what is wrong.
-/
import ApiOutline.Text.Composition
import ApiOutline.Text.Mark
import ApiOutline.Value.Text
import ApiOutline.Web.Host.Direction
import ApiOutline.Web.Host.Joining
import ApiOutline.Web.Host.Letters
import ApiOutline.Web.Host.Scripts

set_option autoImplicit false

namespace ApiOutline.Web.Host

/-- What is wrong with a label. Places are counted from one. -/
inductive LabelDefect where
  | empty
  | tooLong
  | notComposed
  /-- Two hyphens in third and fourth place announce a label in ASCII. -/
  | hyphensInside
  | hyphenAtEnd
  | markInFront
  /-- A character that is not allowed anywhere. -/
  | badCharacter (c : Char) (place : Nat) (label : String)
  /-- A joiner between characters that it cannot join. -/
  | badJoiner (c : Char) (place : Nat) (label : String)
  /-- A character without the company that it needs. -/
  | outOfContext (c : Char) (place : Nat) (label : String)
  | noDirection (place : Nat) (label : String)
  | badBeginning (label : String)
  | wrongDirection (place : Nat) (isRightToLeft : Bool)
  | mixedNumbers
  | badEnding
  deriving DecidableEq, Repr

/-- The number of a character, as it is usually written. -/
def codeText (c : Char) : String :=
  "U+" ++ Decimal.padded 4 (String.ofList ((Nat.toDigits 16 c.toNat).map Char.toUpper))

def LabelDefect.message : LabelDefect → String
  | .empty => "Empty Label"
  | .tooLong => "Label too long"
  | .notComposed => "Label must be in Normalization Form C"
  | .hyphensInside => "Label has disallowed hyphens in 3rd and 4th position"
  | .hyphenAtEnd => "Label must not start or end with a hyphen"
  | .markInFront => "Label begins with an illegal combining character"
  | .badCharacter c place label =>
    "Codepoint " ++ codeText c ++ " at position " ++ Decimal.digitText place ++ " of " ++
      Text.quoted label ++ " not allowed"
  | .badJoiner c place label =>
    "Unknown codepoint adjacent to joiner " ++ codeText c ++ " at position " ++
      Decimal.digitText place ++ " in " ++ Text.quoted label
  | .outOfContext c place label =>
    "Codepoint " ++ codeText c ++ " not allowed at position " ++ Decimal.digitText place ++
      " in " ++ Text.quoted label
  | .noDirection place label =>
    "Unknown directionality in label " ++ Text.quoted label ++ " at position " ++
      Decimal.digitText place
  | .badBeginning label =>
    "First codepoint in label " ++ Text.quoted label ++ " must be directionality L, R or AL"
  | .wrongDirection place isRightToLeft =>
    "Invalid direction for codepoint at position " ++ Decimal.digitText place ++
      (if isRightToLeft then " in a right-to-left label" else " in a left-to-right label")
  | .mixedNumbers => "Can not mix numeral types in a right-to-left label"
  | .badEnding => "Label ends with illegal codepoint directionality"

/-! ## Context -/

/-- The class of the marks that take the vowel from a consonant. -/
def viramaClass : Nat := 9

/-- May a joiner stand between these characters? The nearest one comes first on either side. Both
joiners may stand behind a consonant that has lost its vowel; the one that separates letters also
where two letters would join otherwise. Beside a letter that is not known neither may stand. -/
def joinerFits (c : Char) (before behind : List Char) : Bool :=
  before.head?.any (fun b => Text.combiningClass b = viramaClass) ||
    (c == '\u200c' && !before.head?.any (fun b => direction b = .unknown) &&
      (before.dropWhile isTransparent).head?.any joinsNext &&
      (behind.dropWhile isTransparent).head?.any joinsPrevious)

def isJoiner (c : Char) : Bool := c == '\u200c' || c == '\u200d'

/-- Digits of the two kinds that are written in Arabic script. -/
def isArabicDigit (c : Char) : Bool := '\u0660' ≤ c && c ≤ '\u0669'

def isPersianDigit (c : Char) : Bool := '\u06f0' ≤ c && c ≤ '\u06f9'

def isJapanese (c : Char) : Bool :=
  hiraganaRanges.has c.toNat || katakanaRanges.has c.toNat || hanRanges.has c.toNat

/-- The company that a character needs, if it needs any: a middle dot stands between two `l`, the
signs of Greek and Hebrew numbers beside a letter of theirs, the Japanese middle dot in a label
with something Japanese, and digits of one kind not with digits of the other. -/
def contextFits? (c : Char) (label before behind : List Char) : Option Bool :=
  if c == '·' then some (before.head? == some 'l' && behind.head? == some 'l')
  else if c == '\u0375' then some (behind.head?.any (greekRanges.has ·.toNat))
  else if c == '\u05f3' || c == '\u05f4' then some (before.head?.any (hebrewRanges.has ·.toNat))
  else if c == '\u30fb' then some (label.any isJapanese)
  else if isArabicDigit c then some (!label.any isPersianDigit)
  else if isPersianDigit c then some (!label.any isArabicDigit)
  else none

/-- The character at a place, between others. -/
def checkCharacter (label before : List Char) (c : Char) (behind : List Char) :
    Except LabelDefect Unit :=
  let place := before.length + 1
  let text := String.ofList label
  if isLetter c then .ok ()
  else if isJoiner c then
    if joinerFits c before behind then .ok () else .error (.badJoiner c place text)
  else match contextFits? c label before behind with
    | some true => .ok ()
    | some false => .error (.outOfContext c place text)
    | none => .error (.badCharacter c place text)

/-- The characters of a label, one after the other. -/
def checkCharacters (label : List Char) : (before : List Char) → List Char →
    Except LabelDefect Unit
  | _, [] => .ok ()
  | before, c :: behind => do
    checkCharacter label before c behind
    checkCharacters label (c :: before) behind

/-! ## Direction -/

/-- Directions of which a label from right to left is made; any of them makes a label one that has
to follow the rules. -/
def isRightward : Direction → Bool
  | .rightToLeft | .arabicNumber => true
  | _ => false

/-- Where a label that has to run one way goes wrong, place by place. Digits of two kinds do not
go together from right to left. -/
def checkRun (isRightToLeft : Bool) : (place : Nat) → (numbers : Option Direction) →
    List Direction → Except LabelDefect Unit
  | _, _, [] => .ok ()
  | place, numbers, d :: rest =>
    let fits := if isRightToLeft then d != .leftToRight else !isRightward d
    if !fits then .error (.wrongDirection place isRightToLeft)
    else if isRightToLeft && (d = .number || d = .arabicNumber) then
      if numbers.all (· = d) then checkRun isRightToLeft (place + 1) (some d) rest
      else .error .mixedNumbers
    else checkRun isRightToLeft (place + 1) numbers rest

/-- Does a label end well? Marks at the end are looked through. -/
def endsWell (isRightToLeft : Bool) (ds : List Direction) : Bool :=
  match (ds.reverse.dropWhile (· = .mark)).head? with
  | some .number => true
  | some .leftToRight => !isRightToLeft
  | some .rightToLeft | some .arabicNumber => isRightToLeft
  | _ => false

/-- The direction of a label as a whole. -/
def checkDirection (label : List Char) : Except LabelDefect Unit := do
  let ds := label.map direction
  let text := String.ofList label
  match ds.findIdx? (· = .unknown) with
  | some index => throw (.noDirection (index + 1) text)
  | none =>
    if ds.any isRightward then
      let isRightToLeft ← match ds.head? with
        | some .rightToLeft => pure true
        | some .leftToRight => pure false
        | _ => throw (.badBeginning text)
      checkRun isRightToLeft 1 none ds
      if !endsWell isRightToLeft ds then throw .badEnding

/-! ## Labels -/

/-- Labels have fewer characters than this in any case. -/
def plainLabelLimit : Nat := 254

/-- Is a label one that can stand in a name? -/
def checkLabel (label : List Char) : Except LabelDefect Unit := do
  if label.isEmpty then throw .empty
  if plainLabelLimit < label.length then throw .tooLong
  if !Text.isComposed label then throw .notComposed
  if (label.drop 2).take 2 == ['-', '-'] then throw .hyphensInside
  if label.head? == some '-' || label.getLast? == some '-' then throw .hyphenAtEnd
  if label.head?.any Text.isMark then throw .markInFront
  checkCharacters label [] label
  checkDirection label

end ApiOutline.Web.Host
