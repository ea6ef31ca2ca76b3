/-
Encodings for Korean.

A syllable of the Korean script is made of an initial consonant, a vowel and perhaps a final
consonant. Most syllables have a cell of their own in the set. The others are put together, in eight
octets, or are in the cells of a larger encoding. A third encoding writes all syllables by their
parts, five bits for each.
-/
import ApiOutline.Text.Encoding.Beginning
import ApiOutline.Text.Encoding.Grid.Korean

set_option autoImplicit false

namespace ApiOutline.Text

inductive KoreanEncoding where
  /-- Both octets large. -/
  | large
  /-- The encoding with the number 949. -/
  | unified
  /-- Syllables by their parts. -/
  | byParts
  deriving DecidableEq, Repr

namespace KoreanEncoding

/-! ## Syllables -/

/-- The initial consonants. -/
def initials : List Char := "ㄱㄲㄴㄷㄸㄹㅁㅂㅃㅅㅆㅇㅈㅉㅊㅋㅌㅍㅎ".toList

/-- The vowels. -/
def vowels : List Char := "ㅏㅐㅑㅒㅓㅔㅕㅖㅗㅘㅙㅚㅛㅜㅝㅞㅟㅠㅡㅢㅣ".toList

/-- The final consonants. -/
def finals : List Char := "ㄱㄲㄳㄴㄵㄶㄷㄹㄺㄻㄼㄽㄾㄿㅀㅁㅂㅄㅅㅆㅇㅈㅊㅋㅌㅍㅎ".toList

/-- The syllable of an initial and a vowel, by their places, and a final, by its place and one
more; zero is none. -/
def syllable (i v f : Nat) : Char :=
  Char.ofNat (0xAC00 + (i * vowels.length + v) * (finals.length + 1) + f)

/-! ## Sets -/

/-- The row of the letters. -/
def letterRow : Nat := 0xA4

/-- The cell in the row of the letters that says that a place is empty, and at the front, that a
syllable is put together. -/
def emptyCell : Nat := 0xD4

/-- The letter of a cell. -/
def letter (cell : Nat) : Char := Char.ofNat (0x3131 + (cell - 0xA1))

/-- The syllable that is put together from letters in three cells. -/
def joined? (i v f : Nat) : Option Char := do
  let initial ← initials.idxOf? (letter i)
  let vowel ← vowels.idxOf? (letter v)
  if f = emptyCell then return syllable initial vowel 0
  return syllable initial vowel ((← finals.idxOf? (letter f)) + 1)

/-- The character of two octets in the set that is numbered from 0x21 on. -/
def inSet? (a b : Nat) : Option Char := Grid.korean.character? (a - 0x80) (b - 0x80)

/-! ## Syllables by their parts -/

/-- What five bits say about a part of a syllable. -/
inductive Part where
  | letter (place : Nat)
  /-- The part is missing. -/
  | empty
  deriving DecidableEq, Repr

def initialPart? (bits : Nat) : Option Part :=
  if bits = 1 then some .empty
  else if 2 ≤ bits && bits ≤ 20 then some (.letter (bits - 2))
  else none

/-- Vowels stand in groups of six. -/
def vowelPart? (bits : Nat) : Option Part :=
  if bits = 2 then some .empty
  else if 3 ≤ bits && bits ≤ 29 && 2 ≤ bits % 8 then some (.letter (bits / 8 * 6 + bits % 8 - 3))
  else none

def finalPart? (bits : Nat) : Option Part :=
  if bits = 1 then some .empty
  else if 2 ≤ bits && bits ≤ 17 then some (.letter (bits - 2))
  else if 19 ≤ bits && bits ≤ 29 then some (.letter (bits - 3))
  else none

/-- The syllable of three parts, or the letter if there is only one of them. -/
def ofParts? : Part → Part → Part → Option Char
  | .letter i, .letter v, .letter f => some (syllable i v (f + 1))
  | .letter i, .letter v, .empty => some (syllable i v 0)
  | .letter i, .empty, .empty => initials[i]?
  | .empty, .letter v, .empty => vowels[v]?
  | .empty, .empty, .letter f => finals[f]?
  | .empty, .empty, .empty => some (Char.ofNat 0x3000)
  | _, _, _ => none

/-- The character of two octets, where syllables are written by their parts. Everything else of the
set comes behind them, two rows on one first octet. -/
def byParts? (a b : Nat) : Option Char := do
  if a < 0xD8 then
    let i ← initialPart? (a / 4 % 0x20)
    let v ← vowelPart? (a % 4 * 8 + b / 0x20)
    let f ← finalPart? (b % 0x20)
    ofParts? i v f
  else if a = 0xDF || 0xF9 < a || b < 0x31 || (0x7F ≤ b && b < 0x91) || b = 0xFF then none
  else if a = 0xDA && 0xA1 ≤ b && b ≤ 0xD3 then none
  else
    let cell := if b < 0x91 then b - 0x31 else b - 0x43
    let row := if a < 0xE0 then 2 * (a - 0xD9) else 2 * a - 0x197
    if a < 0xD9 then none
    else Grid.korean.character? (row + cell / 94 + 0x21) (cell % 94 + 0x21)

/-! ## Reading -/

/-- What octets begin with, of which the first one is no ASCII. -/
def front (e : KoreanEncoding) (a : Nat) : List Nat → Beginning
  | [] => .part
  | b :: rest =>
    match e with
    | .large =>
      if a = letterRow && b = emptyCell then
        match rest with
        | a₁ :: i :: a₂ :: v :: a₃ :: f :: _ =>
          if a₁ = letterRow && a₂ = letterRow && a₃ = letterRow then
            .ofCharacter (joined? i v f) 7
          else .nothing 0
        | _ => .part
      else .ofCharacter (inSet? a b) 1
    | .unified => .ofCharacter ((inSet? a b).or (Grid.koreanFurther.character? a b)) 1
    | .byParts => .ofCharacter (byParts? a b) 1

def toChars? (e : KoreanEncoding) (octets : List Nat) : Option (List Char) :=
  charactersBeyondAscii? e.front octets

end KoreanEncoding

end ApiOutline.Text
