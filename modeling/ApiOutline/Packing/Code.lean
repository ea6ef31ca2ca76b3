/-
Codes of different lengths.

A symbol is written in the fewer bits the more often it occurs. A code is told by the length that
every symbol has in it; among symbols of one length the words are given out in order, and words of
one length follow those of the length before. Lengths have to leave room for one another, and to
leave no room at all unless there is a single symbol.
-/
import ApiOutline.Packing.Bits

set_option autoImplicit false

namespace ApiOutline.Packing

/-- For every length, from one on, the symbols that have it. -/
structure Code where
  rows : List (List Nat)
  deriving Repr

/-- The symbols of a length. -/
def symbolsOf (lengths : List Nat) (length : Nat) : List Nat :=
  (lengths.zipIdx.filter fun p => p.1 = length).map Prod.snd

/-- The longest length of some. -/
def longest (lengths : List Nat) : Nat := lengths.foldl max 0

/-- How much room is left behind rows of words, counted in words of the last length, unless there
was too little. -/
def roomBehind? : (room : Nat) → List (List Nat) → Option Nat
  | room, [] => some room
  | room, row :: rest =>
    if 2 * room < row.length then none else roomBehind? (2 * room - row.length) rest

/-- The code in which symbols have these lengths. With a single symbol there may be room left; in a
code without symbols every word is none. -/
def Code.ofLengths? (mayBeSingle : Bool) (lengths : List Nat) : Option Code :=
  let top := longest lengths
  let rows := (List.range top).map fun i => symbolsOf lengths (i + 1)
  if top = 0 then some ⟨[[]]⟩
  else match roomBehind? 1 rows with
    | none => none
    | some room => if room = 0 || (mayBeSingle && top = 1) then some ⟨rows⟩ else none

/-- The symbol of the word that goes on behind `word`. Words of the length of the next row begin
with `first`. -/
def symbolFrom (d : Defect) : (first word : Nat) → List (List Nat) → Reader Nat
  | _, _, [], _ => .bad d
  | _, _, _ :: _, [] => .short
  | first, word, row :: rows, b :: bits =>
    let word := 2 * word + b.toNat
    match if word < first then none else row[word - first]? with
    | some symbol => .done symbol bits
    | none => symbolFrom d (2 * (first + row.length)) word rows bits

/-- The symbol of the word at the front. -/
def Code.symbol (c : Code) (d : Defect) : Reader Nat :=
  symbolFrom d 0 0 c.rows

end ApiOutline.Packing
