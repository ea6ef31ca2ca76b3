/-
An encoding that shifts.

Most of ASCII stands for itself. A plus sign begins a run of digits in base 64, which write units
of sixteen bits; a character that is no such digit ends it, and a hyphen that does so is not
written. Bits that are left over have to be few and zero. Where something is wrong a replacement
character is written, and the run is over.
-/
import ApiOutline.Text.Encoding.Wide

set_option autoImplicit false

namespace ApiOutline.Text

/-- What a digit in base 64 is worth. -/
def base64Value? (b : Nat) : Option Nat :=
  if 0x41 ≤ b && b ≤ 0x5A then some (b - 0x41)
  else if 0x61 ≤ b && b ≤ 0x7A then some (b - 0x61 + 26)
  else if 0x30 ≤ b && b ≤ 0x39 then some (b - 0x30 + 52)
  else if b = 0x2B then some 62
  else if b = 0x2F then some 63
  else none

/-- A run of digits that is being read. -/
structure Run where
  /-- Bits that make no unit yet, and how many there are. -/
  bits : Nat
  count : Nat
  /-- A half that waits for the other one. -/
  half : Option Nat
  deriving Repr

/-- A run of which nothing has been read. -/
def Run.empty : Run := ⟨0, 0, none⟩

/-- One more unit: what is written for it, and the half that waits then. Halves without the other
one stand for no character. -/
def Run.unit (half : Option Nat) (n : Nat) : List Char × Option Nat :=
  match half with
  | some a =>
    if isTrailingHalf n then ([joinHalves a n], none)
    else if isLeadingHalf n then ([replacement], some n)
    else ([replacement, if isTrailingHalf n then replacement else Char.ofNat n], none)
  | none =>
    if isLeadingHalf n then ([], some n)
    else ([if isTrailingHalf n then replacement else Char.ofNat n], none)

/-- One more digit: what is written for it, and the run behind it. -/
def Run.digit (r : Run) (value : Nat) : List Char × Run :=
  let bits := r.bits * 64 + value
  let count := r.count + 6
  if 16 ≤ count then
    let (written, half) := Run.unit r.half (bits / Nat.pow 2 (count - 16))
    (written, ⟨bits % Nat.pow 2 (count - 16), count - 16, half⟩)
  else ([], ⟨bits, count, r.half⟩)

/-- May a run end here, as far as its bits are concerned? -/
def Run.isWhole (r : Run) : Bool := r.count < 6 && r.bits == 0

/-- What is written for octets, in a run or outside of one. -/
def shiftedToChars : Option Run → List UInt8 → List Char
  | none, [] => []
  | some r, [] => if r.half.isNone && r.isWhole then [] else [replacement]
  | some r, b :: rest =>
    match base64Value? b.toNat with
    | some value =>
      let (written, next) := r.digit value
      written ++ shiftedToChars (some next) rest
    | none =>
      if !r.isWhole then replacement :: shiftedToChars none rest
      else
        let lost := if r.half.isSome && b < 0x80 then [replacement] else []
        if b = 0x2D then lost ++ shiftedToChars none rest
        else if b < 0x80 then lost ++ Char.ofNat b.toNat :: shiftedToChars none rest
        else lost ++ replacement :: shiftedToChars none rest
  | none, b :: rest =>
    if b = 0x2B then
      match rest with
      | [] => []
      | c :: behind =>
        if c = 0x2D then '+' :: shiftedToChars none behind
        else if (base64Value? c.toNat).isNone then replacement :: shiftedToChars none behind
        else shiftedToChars (some Run.empty) (c :: behind)
    else if b < 0x80 then Char.ofNat b.toNat :: shiftedToChars none rest
    else replacement :: shiftedToChars none rest
termination_by _ octets => octets.length
decreasing_by all_goals simp only [List.length_cons]; omega

end ApiOutline.Text
