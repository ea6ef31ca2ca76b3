/-
Double-precision numbers, as values.

A document may hold numbers with a fraction or an exponent, and they are kept with the precision
of IEEE binary64. The type is the set of its values: a finite number is a sign, a mantissa below
`2 ^ 53` and a power of two, so that nothing here depends on machine arithmetic and equality of
two numbers can be decided. `ofRatio` is the only way in, and it rounds to the nearest value, a
tie to the even mantissa.
-/

set_option autoImplicit false

namespace ApiOutline

/-- A binary64 number. A finite one is `± mantissa * 2 ^ exponent`; the two zeros differ in sign. -/
inductive Binary64 where
  | nan
  | infinite (negative : Bool)
  | finite (negative : Bool) (mantissa : Nat) (exponent : Int)
  deriving DecidableEq, Repr

namespace Binary64

/-- Mantissas of normal numbers lie between `2 ^ 52` and twice that. -/
def hidden : Nat := Nat.pow 2 52

/-- The exponent of subnormal numbers, the smallest there is. -/
def minExponent : Int := -1074

/-- The exponent of the largest numbers. -/
def maxExponent : Int := 971

def zero (negative : Bool) : Binary64 :=
  .finite negative 0 minExponent

/-- A quotient rounded to the nearest natural number, a tie to the even one. -/
def roundEven (num den : Nat) : Nat :=
  let q := num / den
  let r := num % den
  if 2 * r < den then q
  else if den < 2 * r then q + 1
  else q + q % 2

/-- `num / den * 2 ^ (-exponent)` as a quotient. -/
def scaled (num den : Nat) (exponent : Int) : Nat × Nat :=
  if exponent ≤ 0 then (num * Nat.pow 2 exponent.natAbs, den)
  else (num, den * Nat.pow 2 exponent.natAbs)

/-- The exponent at which the mantissa of `num / den` has 53 bits, or the smallest exponent. -/
def exponentOf (num den : Nat) : Int :=
  let guess : Int := (num.log2 : Int) - (den.log2 : Int) - 52
  let (n, d) := scaled num den guess
  max minExponent (if n < hidden * d then guess - 1 else guess)

/-- The number nearest to `± num / den`. -/
def ofRatio (negative : Bool) (num den : Nat) : Binary64 :=
  if num = 0 then zero negative
  else
    let e := exponentOf num den
    let (n, d) := scaled num den e
    let m := roundEven n d
    let (m, e) := if m = 2 * hidden then (hidden, e + 1) else (m, e)
    if e > maxExponent then .infinite negative else .finite negative m e

/-- The number nearest to `± digits * 10 ^ exponent`. Magnitudes that no binary64 number comes
near are settled by the count of digits, so that no huge power is ever formed. -/
def ofDecimal (negative : Bool) (digits : Nat) (exponent : Int) : Binary64 :=
  let magnitude : Int := (Nat.toDigits 10 digits).length + exponent
  if digits = 0 then zero negative
  else if magnitude > 400 then .infinite negative
  else if magnitude < -400 then zero negative
  else if 0 ≤ exponent then ofRatio negative (digits * Nat.pow 10 exponent.natAbs) 1
  else ofRatio negative digits (Nat.pow 10 exponent.natAbs)

/-- The number nearest to an integer. -/
def ofInt (n : Int) : Binary64 :=
  ofRatio (n < 0) n.natAbs 1

/-- The integer that a number is, if it is one. -/
def toInt? : Binary64 → Option Int
  | .finite negative m e =>
    let magnitude : Option Nat :=
      if 0 ≤ e then some (m * Nat.pow 2 e.natAbs)
      else if m % Nat.pow 2 e.natAbs = 0 then some (m / Nat.pow 2 e.natAbs) else none
    magnitude.map fun (n : Nat) => if negative then -(n : Int) else n
  | _ => none

/-- Is the number zero, of either sign? -/
def isZero : Binary64 → Bool
  | .finite _ m _ => m == 0
  | _ => false

/-- Is the number neither infinite nor a NaN? -/
def isFinite : Binary64 → Bool
  | .finite .. => true
  | _ => false

/-- Equality of numbers: the zeros are equal and a NaN equals nothing. -/
def equals (x y : Binary64) : Bool :=
  match x, y with
  | .nan, _ => false
  | _, .nan => false
  | x, y => (x.isZero && y.isZero) || x == y

/-- The number with the other sign. -/
def neg : Binary64 → Binary64
  | .nan => .nan
  | .infinite s => .infinite !s
  | .finite s m e => .finite (!s) m e

/-- The number nearest to `± n * 2 ^ exponent`. -/
def ofScaled (negative : Bool) (n : Nat) (exponent : Int) : Binary64 :=
  if 0 ≤ exponent then ofRatio negative (n * Nat.pow 2 exponent.natAbs) 1
  else ofRatio negative n (Nat.pow 2 exponent.natAbs)

/-- The number nearest to a sum. -/
def add : Binary64 → Binary64 → Binary64
  | .finite s m e, .finite t n f =>
    let low := min e f
    let term (negative : Bool) (k : Nat) (g : Int) : Int :=
      let magnitude : Int := (k * Nat.pow 2 (g - low).natAbs : Nat)
      if negative then -magnitude else magnitude
    let total := term s m e + term t n f
    if total = 0 then zero (s && t) else ofScaled (total < 0) total.natAbs low
  | .infinite s, .infinite t => if s = t then .infinite s else .nan
  | .infinite s, .finite .. => .infinite s
  | .finite .., .infinite t => .infinite t
  | _, _ => .nan

/-- The number nearest to a product. -/
def mul : Binary64 → Binary64 → Binary64
  | .finite s m e, .finite t n f => ofScaled (s != t) (m * n) (e + f)
  | .infinite s, .infinite t => .infinite (s != t)
  | .infinite s, .finite t n _ => if n = 0 then .nan else .infinite (s != t)
  | .finite s m _, .infinite t => if m = 0 then .nan else .infinite (s != t)
  | _, _ => .nan

end Binary64

end ApiOutline
