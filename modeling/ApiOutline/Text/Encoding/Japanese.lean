/-
Encodings for Japanese.

The same sets are written in two manners. In the one, both octets of a character are large, and a
special octet in front announces a set of another kind. In the other, small letters of one octet
are squeezed in between: 94 rows of 94 cells become 47 first octets with 188 second ones.
-/
import ApiOutline.Text.Encoding.Beginning
import ApiOutline.Text.Encoding.Grid.Japanese
import ApiOutline.Text.Encoding.Grid.JapaneseFurther

set_option autoImplicit false

namespace ApiOutline.Text

/-- The editions of the standard with two planes. -/
inductive PlaneEdition where
  | first
  | second
  deriving DecidableEq, Repr

inductive JapaneseEncoding where
  /-- Both octets large. -/
  | large
  /-- Both octets large, with both planes. -/
  | largePlanes (edition : PlaneEdition)
  /-- With the letters of one octet in between. -/
  | shifted
  /-- The same with what makers of machines have added, under the number 932. -/
  | vendor
  /-- The same with both planes. -/
  | shiftedPlanes (edition : PlaneEdition)
  deriving DecidableEq, Repr

/-! ## Sets -/

namespace Grid

/-- Cells of the first plane that are empty in the first edition, though they are cells. -/
def emptyInFirstEdition : List (Nat × Nat) :=
  [(0x2E, 0x21), (0x2F, 0x7E), (0x4F, 0x54), (0x4F, 0x7E), (0x74, 0x27), (0x7E, 0x7A),
    (0x7E, 0x7B), (0x7E, 0x7C), (0x7E, 0x7D), (0x7E, 0x7E)]

/-- A cell of the second plane that has another character in the first edition. -/
def inFirstEdition : Grid := [⟨0x7D, 0x3B, "鬝"⟩]

end Grid

/-- What a cell of the first plane holds. -/
def firstPlane? (edition : PlaneEdition) (row cell : Nat) : Option (List Char) :=
  if edition = .first && Grid.emptyInFirstEdition.contains (row, cell) then some [replacement]
  else
    let all := Grid.japanese ++ Grid.japaneseFirstPlane
    (composed? Grid.japaneseComposed row cell).or ((all.character? row cell).map ([·]))

/-- The same where ASCII is written in one octet, so that the tilde is another one. -/
def firstPlaneWide? (edition : PlaneEdition) (row cell : Nat) : Option (List Char) :=
  if row = 0x22 && cell = 0x32 then some ['～'] else firstPlane? edition row cell

/-- The same where ASCII has no backslash. -/
def firstPlaneNarrow? (edition : PlaneEdition) (row cell : Nat) : Option (List Char) :=
  if row = 0x21 && cell = 0x40 then some ['\\'] else firstPlane? edition row cell

/-- What a cell of the second plane holds. -/
def secondPlane? (edition : PlaneEdition) (row cell : Nat) : Option Char :=
  match edition with
  | .first => (Grid.inFirstEdition ++ Grid.japaneseSecondPlane).character? row cell
  | .second => Grid.japaneseSecondPlane.character? row cell

namespace JapaneseEncoding

/-- The letters of one octet, and their octets. -/
def isLetterOctet (b : Nat) : Bool := 0xA1 ≤ b && b ≤ 0xDF

def letterOf (b : Nat) : Char := Char.ofNat (0xFEC0 + b)

/-- Characters, if there are any. -/
def ofCell (cs : Option (List Char)) (more : Nat) : Beginning :=
  match cs with
  | some cs => .characters cs more
  | none => .nothing 0

/-! ## Both octets large -/

/-- The octet in front of a letter, and the one in front of another set. -/
def letterMark : Nat := 0x8E

def otherMark : Nat := 0x8F

/-- What octets begin with, of which the first one is no ASCII, given what the two sets hold. -/
def largeFront (plain other : Nat → Nat → Option (List Char)) (a : Nat) : List Nat → Beginning
  | [] => .part
  | b :: rest =>
    if a = letterMark then
      if isLetterOctet b then .characters [letterOf b] 1 else .nothing 0
    else if a = otherMark then
      match rest with
      | [] => .part
      | c :: _ => ofCell (other (b - 0x80) (c - 0x80)) 2
    else ofCell (plain (a - 0x80) (b - 0x80)) 1

/-! ## With letters in between -/

/-- The row and the cell of two octets, counted from zero. The first octets leave out those of the
letters, the second ones that which erases. -/
def unshifted? (a b : Nat) : Option (Nat × Nat) :=
  let isFirst := (0x81 ≤ a && a ≤ 0x9F) || (0xE0 ≤ a && a ≤ 0xFC)
  let isSecond := 0x40 ≤ b && b ≤ 0xFC && b ≠ 0x7F
  if isFirst && isSecond then
    let high := if a < 0xE0 then a - 0x81 else a - 0xC1
    let low := if b < 0x80 then b - 0x40 else b - 0x41
    some (2 * high + low / 94, low % 94)
  else none

/-- The row of the second plane that stands in one of the rows behind the first plane. Only some
rows of the second plane are in use. -/
def secondPlaneRow (row : Nat) : Nat :=
  if 0x67 ≤ row then row + 0x07
  else if 0x63 ≤ row || row = 0x5F then row - 0x37
  else row - 0x3D

/-- What octets begin with in the manner with letters in between, given what two octets hold.
Larger octets that begin nothing do so at once. -/
def shiftedFront (two : Nat → Nat → Option (List Char)) (a : Nat) (rest : List Nat) : Beginning :=
  if isLetterOctet a then .characters [letterOf a] 0
  else if (0x81 ≤ a && a ≤ 0x9F) || (0xE0 ≤ a && a ≤ 0xFC) then
    match rest with
    | [] => .part
    | b :: _ => ofCell (two a b) 1
  else .nothing 0

/-- The character of two octets in the first set. -/
def inShifted? (a b : Nat) : Option (List Char) := do
  let (row, cell) ← unshifted? a b
  return [← Grid.japanese.character? (row + 0x21) (cell + 0x21)]

/-- What two octets hold where there are two planes. -/
def inShiftedPlanes? (edition : PlaneEdition) (a b : Nat) : Option (List Char) := do
  let (row, cell) ← unshifted? a b
  if row < 94 then firstPlaneNarrow? edition (row + 0x21) (cell + 0x21)
  else return [← secondPlane? edition (secondPlaneRow row) (cell + 0x21)]

/-- The single octets that only one maker knows. -/
def vendorSingle? (a : Nat) : Option Char :=
  if a = 0x80 then some (Char.ofNat 0x80)
  else if a = 0xA0 then some (Char.ofNat 0xF8F0)
  else if 0xFD ≤ a then some (Char.ofNat (0xF8F1 + (a - 0xFD)))
  else none

/-- The first octets of characters for private use. -/
def isPrivate (a : Nat) : Bool := 0xF0 ≤ a && a ≤ 0xF9

def inVendor? (a b : Nat) : Option (List Char) :=
  match Grid.japaneseVendor.character? a b with
  | some c => some [c]
  | none =>
    if isPrivate a then
      (unshifted? a b).map fun (row, cell) =>
        [Char.ofNat (0xE000 + 94 * row + cell - 188 * (0xF0 - 0xC1))]
    else inShifted? a b

/-! ## Reading -/

/-- The character of an octet of ASCII. Where there are two planes, two of them are not ASCII. -/
def small (e : JapaneseEncoding) (a : Nat) : Char :=
  match e with
  | .shiftedPlanes _ => if a = 0x5C then '¥' else if a = 0x7E then '‾' else Char.ofNat a
  | _ => Char.ofNat a

/-- What octets begin with. -/
def front (e : JapaneseEncoding) (a : Nat) (rest : List Nat) : Beginning :=
  if a < 0x80 then .characters [e.small a] 0
  else
    let single (g : Grid) (row cell : Nat) : Option (List Char) :=
      (g.character? row cell).map ([·])
    match e with
    | .large => largeFront (single Grid.japanese) (single Grid.japaneseSupplement) a rest
    | .largePlanes edition =>
      let other (row cell : Nat) : Option (List Char) :=
        ((secondPlane? edition row cell).or (Grid.japaneseSupplement.character? row cell)).map ([·])
      largeFront (firstPlaneWide? edition) other a rest
    | .shifted => shiftedFront inShifted? a rest
    | .vendor =>
      match vendorSingle? a with
      | some c => .characters [c] 0
      | none => shiftedFront inVendor? a rest
    | .shiftedPlanes edition => shiftedFront (inShiftedPlanes? edition) a rest

def toChars? (e : JapaneseEncoding) (octets : List Nat) : Option (List Char) :=
  charactersBy? (fun (_ : Unit) a rest => (e.front a rest, ())) () octets

end JapaneseEncoding

end ApiOutline.Text
