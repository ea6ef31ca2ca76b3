/-
Whole numbers in texts.

Numbers are written in base two, eight, ten or sixteen, in ASCII digits; letters go on where the
decimal digits end, in either case.
-/

set_option autoImplicit false

namespace ApiOutline.Text

def isDigit (c : Char) : Bool := '0' ≤ c && c ≤ '9'

/-- What a digit is worth, letters included. -/
def digitValue? (c : Char) : Option Nat :=
  if isDigit c then some (c.toNat - '0'.toNat)
  else if 'a' ≤ c ∧ c ≤ 'z' then some (c.toNat - 'a'.toNat + 10)
  else if 'A' ≤ c ∧ c ≤ 'Z' then some (c.toNat - 'A'.toNat + 10)
  else none

/-- What a digit of a given base is worth. -/
def digitIn? (base : Nat) (c : Char) : Option Nat :=
  (digitValue? c).filter (· < base)

/-- The number that the digits of a text write. There has to be one. -/
def numeral? (base : Nat) : List Char → Option Nat
  | [] => none
  | cs => cs.foldl (fun n? c => n?.bind fun n => (digitIn? base c).map (n * base + ·)) (some 0)

/-- The number that decimal digits write. -/
def digitsNumber (ds : List Char) : Nat :=
  ds.foldl (fun n c => n * 10 + (c.toNat - '0'.toNat)) 0

end ApiOutline.Text
