/-
Numbers as people write them.

A number may have blanks around it, a sign, a point and an exponent, and its digits may be those
of any script. Infinity and the absence of a number are written as words.
-/
import ApiOutline.Decimal.Binary64
import ApiOutline.Text.Blank
import ApiOutline.Text.Cut
import ApiOutline.Text.Digit
import ApiOutline.Text.Numeral

set_option autoImplicit false

namespace ApiOutline.Decimal

/-- A sign, if there is one: whether it is a minus, and what stands behind it. -/
def sign : List Char → Bool × List Char
  | '-' :: rest => (true, rest)
  | '+' :: rest => (false, rest)
  | cs => (false, cs)

/-- A digit of any script in its ASCII form. -/
def plainDigit (c : Char) : Char :=
  match Text.decimalValue? c with
  | some n => Char.ofNat ('0'.toNat + n)
  | none => c

/-- What is written, without blanks around it and with plain digits. -/
def trimmed (cs : List Char) : List Char :=
  (Text.strip Text.isBlank cs).map plainDigit

/-- The letter behind a zero that announces a base. -/
def baseLetter? : Nat → Option Char
  | 2 => some 'b'
  | 8 => some 'o'
  | 16 => some 'x'
  | _ => none

/-- Digits, with or without the announcement of their base. -/
def unsigned? (base : Nat) (cs : List Char) : Option Nat :=
  match baseLetter? base, cs with
  | some letter, '0' :: c :: rest =>
    if c.toLower = letter then Text.numeral? base rest else Text.numeral? base cs
  | _, _ => Text.numeral? base cs

/-- An integer in a given base. -/
def integer? (base : Nat) (cs : List Char) : Option Int :=
  let (negative, digits) := sign (trimmed cs)
  (unsigned? base digits).map fun (n : Nat) => if negative then -(n : Int) else n

/-- The words for what is no finite number. -/
def word? (cs : List Char) : Option Binary64 :=
  match String.ofList (cs.map Char.toLower) with
  | "inf" => some (.infinite false)
  | "infinity" => some (.infinite false)
  | "nan" => some .nan
  | _ => none

/-- An exponent, or nothing. -/
def exponent? : List Char → Option Int
  | [] => some 0
  | e :: rest =>
    if e = 'e' ∨ e = 'E' then
      let (negative, digits) := sign rest
      if digits.all Text.isDigit then
        (Text.numeral? 10 digits).map fun (n : Nat) => if negative then -(n : Int) else n
      else none
    else none

/-- A finite number without its sign. There has to be a digit in front of the exponent. -/
def magnitude? (cs : List Char) : Option (Nat × Int) :=
  let whole := cs.takeWhile Text.isDigit
  let rest := cs.dropWhile Text.isDigit
  let (places, rest) : List Char × List Char :=
    match rest with
    | '.' :: rest => (rest.takeWhile Text.isDigit, rest.dropWhile Text.isDigit)
    | rest => ([], rest)
  if whole.isEmpty && places.isEmpty then none
  else
    (exponent? rest).map fun e =>
      (Text.digitsNumber (whole ++ places), e - (places.length : Int))

/-- A number. -/
def number? (cs : List Char) : Option Binary64 :=
  let (negative, rest) := sign (trimmed cs)
  match word? rest with
  | some x => some (if negative then x.neg else x)
  | none => (magnitude? rest).map fun (n, e) => Binary64.ofDecimal negative n e

end ApiOutline.Decimal
