/-
The shortest decimal text of a binary64 number.

Reading rounds, so every number owns an interval of reals that are read as it. The digits written
for a number are the fewest with which some decimal lies in that interval, and among those the
nearest to the number. For one digit, two digits and so on, the two decimals next to the number on
that grid are tried in exact arithmetic; seventeen digits always suffice.

How the digits are laid out is a decision of the format and is kept apart, in `Layout`.
-/
import ApiOutline.Decimal.Binary64

set_option autoImplicit false

namespace ApiOutline

/-- A positive decimal, `digits * 10 ^ exponent`. -/
structure Decimal where
  digits : Nat
  exponent : Int
  deriving DecidableEq, Repr

namespace Decimal

/-- The sign of `a * 10 ^ p - b * 2 ^ q`, computed in natural numbers. -/
def compareScaled (a : Nat) (p : Int) (b : Nat) (q : Int) : Ordering :=
  let left := a * Nat.pow 10 p.toNat * Nat.pow 2 (-q).toNat
  let right := b * Nat.pow 2 q.toNat * Nat.pow 10 (-p).toNat
  compare left right

/-- The largest `k` with `10 ^ k ≤ m * 2 ^ q`, searched upward from a guess that is not too
large. -/
def decimalExponent (m : Nat) (q : Int) : Int :=
  let guess : Int := ((m.log2 : Int) + q) * 30102 / 100000 - 1
  let climb (k : Int) : Int := if compareScaled 1 (k + 1) m q == .gt then k else k + 1
  climb (climb (climb guess))

/-- The reals that are read as `mantissa * 2 ^ exponent`, as bounds over `2 ^ (exponent - 2)`. The
step below a power of two is half as long as the one above it. The bounds themselves belong to the
interval when the mantissa is even. -/
structure Interval where
  lower : Nat
  value : Nat
  upper : Nat
  scale : Int
  closed : Bool

def interval (mantissa : Nat) (exponent : Int) : Interval :=
  let narrow := mantissa == Binary64.hidden && exponent > Binary64.minExponent
  { lower := if narrow then 4 * mantissa - 1 else 4 * mantissa - 2
    value := 4 * mantissa
    upper := 4 * mantissa + 2
    scale := exponent - 2
    closed := mantissa % 2 == 0 }

/-- Is `d * 10 ^ p` read as the number that owns the interval? -/
def Interval.owns (i : Interval) (d : Nat) (p : Int) : Bool :=
  let below := compareScaled d p i.lower i.scale
  let above := compareScaled d p i.upper i.scale
  (below == .gt || (i.closed && below == .eq)) && (above == .lt || (i.closed && above == .eq))

/-- The largest `d` with `d * 10 ^ p ≤ value * 2 ^ scale`. -/
def Interval.floorOn (i : Interval) (p : Int) : Nat :=
  (i.value * Nat.pow 2 i.scale.toNat * Nat.pow 10 (-p).toNat) /
    (Nat.pow 10 p.toNat * Nat.pow 2 (-i.scale).toNat)

/-- The decimal on the grid of `10 ^ p` that is read back and nearest; of two at one distance the
one with the even last digit. -/
def Interval.nearestOn (i : Interval) (p : Int) : Option Nat :=
  let d := i.floorOn p
  match i.owns d p && d != 0, i.owns (d + 1) p with
  | false, false => none
  | true, false => some d
  | false, true => some (d + 1)
  | true, true =>
    -- the number against the middle of the two neighbours
    match compareScaled (2 * d + 1) p (2 * i.value) i.scale with
    | .gt => some d
    | .lt => some (d + 1)
    | .eq => some (if d % 2 == 0 then d else d + 1)

/-- The shortest decimal, tried with `count`, `count + 1`, … digits as long as `fuel` lasts. -/
def Interval.search (i : Interval) (top : Int) : (fuel count : Nat) → Decimal
  | 0, count => ⟨i.floorOn (top - count + 1), top - count + 1⟩
  | fuel + 1, count =>
    let p := top - count + 1
    match i.nearestOn p with
    | some d => ⟨d, p⟩
    | none => i.search top fuel (count + 1)

/-- A decimal without zeros at the end of its digits. -/
def trim (fuel : Nat) (d : Decimal) : Decimal :=
  match fuel with
  | 0 => d
  | fuel + 1 =>
    if d.digits % 10 == 0 && d.digits != 0 then
      trim fuel ⟨d.digits / 10, d.exponent + 1⟩
    else d

/-- The shortest decimal that is read as `mantissa * 2 ^ exponent`, for a positive mantissa. -/
def shortest (mantissa : Nat) (exponent : Int) : Decimal :=
  let i := interval mantissa exponent
  (i.search (decimalExponent mantissa exponent) 17 1).trim 20

/-! ## Layout -/

/-- How a decimal is written. -/
structure Layout where
  /-- The smallest power of ten of the first digit that is written without an exponent. -/
  positionalFrom : Int
  /-- The first power of ten that is written with an exponent. -/
  positionalBelow : Int
  /-- Follows a whole number that is written without an exponent. -/
  wholeSuffix : String
  /-- The least number of digits of an exponent, which always has a sign. -/
  exponentWidth : Nat
  notANumber : String
  infinity : String

/-- `n` in decimal digits. -/
def digitText (n : Nat) : String :=
  String.ofList (Nat.toDigits 10 n)

/-- Zeros in front of a text until it has `width` characters. -/
def padded (width : Nat) (s : String) : String :=
  String.ofList (List.replicate (width - s.length) '0') ++ s

def Layout.exponentText (l : Layout) (e : Int) : String :=
  (if e < 0 then "e-" else "e+") ++ padded l.exponentWidth (digitText e.natAbs)

/-- A positive decimal in a layout. -/
def Layout.decimalText (l : Layout) (d : Decimal) : String :=
  let digits := Nat.toDigits 10 d.digits
  let top : Int := d.exponent + digits.length - 1
  if l.positionalFrom ≤ top && top < l.positionalBelow then
    if top < 0 then
      "0." ++ String.ofList (List.replicate ((-top).toNat - 1) '0' ++ digits)
    else if 0 ≤ d.exponent then
      String.ofList (digits ++ List.replicate d.exponent.toNat '0') ++ l.wholeSuffix
    else
      String.ofList (digits.take (top.toNat + 1)) ++ "." ++
        String.ofList (digits.drop (top.toNat + 1))
  else
    match digits with
    | [] => ""
    | [c] => String.ofList [c] ++ l.exponentText top
    | c :: rest => String.ofList (c :: '.' :: rest) ++ l.exponentText top

/-- A binary64 number in a layout. -/
def Layout.text (l : Layout) : Binary64 → String
  | .nan => l.notANumber
  | .infinite negative => (if negative then "-" else "") ++ l.infinity
  | .finite negative m e =>
    (if negative then "-" else "") ++
      (if m == 0 then "0" ++ l.wholeSuffix else l.decimalText (shortest m e))

end Decimal

end ApiOutline
