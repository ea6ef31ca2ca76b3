/-
Composed characters.

A text can be written in several ways that mean the same: with a letter and its accents as one
character or as several, with accents in this order or that. One of these ways is the composed
one. A text is taken apart as far as possible, its marks are put in order, and then whatever can
be one character becomes one.
-/
import ApiOutline.Text.Composition.Order
import ApiOutline.Text.Composition.Pairs

set_option autoImplicit false

namespace ApiOutline.Text

/-! ## Pairs -/

/-- The two parts of a composed character. -/
def parts? (c : Char) : Option (Char × Char) :=
  compositions.findSome? fun (second, firsts) =>
    (firsts.find? fun p => p.2 == c.toNat).map fun p => (Char.ofNat p.1, Char.ofNat second)

/-- A Korean syllable of two parts, from a leading consonant and a vowel, or of three, from such a
syllable and a consonant behind it. -/
def syllable? (a b : Nat) : Option Nat :=
  if 0x1100 ≤ a ∧ a < 0x1113 ∧ 0x1161 ≤ b ∧ b < 0x1176 then
    some (0xAC00 + ((a - 0x1100) * 21 + (b - 0x1161)) * 28)
  else if 0xAC00 ≤ a ∧ a < 0xD7A4 ∧ (a - 0xAC00) % 28 = 0 ∧ 0x11A7 < b ∧ b < 0x11C3 then
    some (a + (b - 0x11A7))
  else none

/-- The character that two become. -/
def composite? (a b : Char) : Option Char :=
  match (compositions.lookup b.toNat).bind (·.lookup a.toNat) with
  | some n => some (Char.ofNat n)
  | none => (syllable? a.toNat b.toNat).map Char.ofNat

/-! ## Texts -/

/-- No character is composed more often than this. -/
def compositionDepth : Nat := 4

/-- What a character consists of. -/
def apart : (depth : Nat) → Char → List Char
  | 0, c => [c]
  | depth + 1, c =>
    match parts? c with
    | some (a, b) => apart depth a ++ [b]
    | none => [c]

/-- A character in front of others that are in order. A mark goes behind marks of smaller class. -/
def placeMark (c : Char) : List Char → List Char
  | [] => [c]
  | d :: rest =>
    if 0 < combiningClass d ∧ combiningClass d < combiningClass c then d :: placeMark c rest
    else c :: d :: rest

/-- The marks between any two other characters in the order of their classes. -/
def inOrder : List Char → List Char
  | [] => []
  | c :: rest => placeMark c (inOrder rest)

/-- A text that is being composed. -/
structure Composing where
  /-- What is finished, the last character first. -/
  done : List Char
  /-- What the next character may be put together with. -/
  base : Char
  /-- The marks behind it that could not be, the last one first. -/
  marks : List Char

/-- Everything so far, the last character first. -/
def Composing.all (s : Composing) : List Char :=
  s.marks ++ s.base :: s.done

/-- One more character. A mark in between keeps it from the base if it is of no smaller class. -/
def Composing.next (s : Composing) (c : Char) : Composing :=
  let kept := s.marks.head?.any fun m => combiningClass c ≤ combiningClass m
  match if kept then none else composite? s.base c with
  | some joined => { s with base := joined }
  | none =>
    if combiningClass c = 0 then ⟨s.all, c, []⟩ else { s with marks := c :: s.marks }

/-- The composed form of a text. -/
def composed (cs : List Char) : List Char :=
  match inOrder (cs.flatMap (apart compositionDepth)) with
  | [] => []
  | c :: rest => (rest.foldl Composing.next ⟨[], c, []⟩).all.reverse

/-- Is a text written in the composed way? -/
def isComposed (cs : List Char) : Bool :=
  cs.all (fun c => !neverComposedRanges.has c.toNat) && composed cs == cs

end ApiOutline.Text
