/-
Changing the case of a text.

Case is mapped character by character, and a character may become several: a sharp s has the
capital form `SS`. One letter looks around itself. The capital sigma becomes the final small
sigma when it ends a word, that is when a cased letter stands before it and none after it,
looking through apostrophes, marks and whatever else the Unicode standard calls case-ignorable.
-/
import ApiOutline.Text.Letter.Capital
import ApiOutline.Text.Letter.Mapping

set_option autoImplicit false

namespace ApiOutline.Text

/-- The image of one character: its expansion if it has one, else its shifted form, else itself. -/
def mapLetter (expansions : List (Nat × List Nat)) (shifts : List Shift) (c : Char) : List Char :=
  match expansions.lookup c.toNat with
  | some codes => codes.map Char.ofNat
  | none =>
    match shifts.find? (·.letters.has c.toNat) with
    | some s => [Char.ofNat ((c.toNat : Int) + s.distance).toNat]
    | none => [c]

/-- The small form of a character, whatever stands around it. -/
def smallForm (c : Char) : List Char :=
  mapLetter smallExpansions smallShifts c

/-- The capital form of a character. -/
def capitalForm (c : Char) : List Char :=
  mapLetter capitalExpansions capitalShifts c

/-- The form of a character that begins a word. -/
def titleForm (c : Char) : List Char :=
  mapLetter titleExpansions titleShifts c

/-- Does a word begin or go on with these characters? The first one that is not case-ignorable
decides. -/
def meetsCased (cs : List Char) : Bool :=
  match cs.dropWhile (fun c => caseIgnorableRanges.has c.toNat) with
  | [] => false
  | c :: _ => casedRanges.has c.toNat

/-- The small forms of `cs`, which follow `before` (nearest character first). -/
def smallFormsAfter (before : List Char) : List Char → List Char
  | [] => []
  | c :: rest =>
    let form :=
      if c = 'Σ' then [if meetsCased before && !meetsCased rest then 'ς' else 'σ']
      else smallForm c
    form ++ smallFormsAfter (c :: before) rest

/-- A text in small letters. -/
def lowerChars (cs : List Char) : List Char :=
  smallFormsAfter [] cs

/-- A text in capitals. -/
def upperChars (cs : List Char) : List Char :=
  cs.flatMap capitalForm

/-- The first character in its word-initial form, the others small. -/
def capitalizeChars : List Char → List Char
  | [] => []
  | c :: rest => titleForm c ++ smallFormsAfter [c] rest

/-- A text in small letters. -/
def lower (s : String) : String :=
  String.ofList (lowerChars s.toList)

/-- A text in capitals. -/
def upper (s : String) : String :=
  String.ofList (upperChars s.toList)

/-- A text with its first character raised and the others lowered. -/
def capitalize (s : String) : String :=
  String.ofList (capitalizeChars s.toList)

end ApiOutline.Text
