/-
Texts of other scripts in ASCII, read with patience.

Where a text in ASCII tells in which places other characters go in, but makes no sense from some
point on, the text so far is the text. A character that would be too large is a question mark, and
those behind it go on from there.
-/
import ApiOutline.Text.Encoding.Escaped
import ApiOutline.Text.Punycode

set_option autoImplicit false

namespace ApiOutline.Text.Punycode

/-- The text in which more characters go in, behind those of smaller codes and, among those of one
code, behind a place, as far as the digits make sense. -/
def filledAsFar (bias code place : Nat) (isFirst : Bool) (text : List Char)
    (digits : List Char) : List Char :=
  if digits.isEmpty then text
  else
    match _h : number? bias 0 1 0 digits with
    | none => text
    | some (distance, behind) =>
      let count := text.length + 1
      let next := code + (place + distance) / count
      let index := (place + distance) % count
      let known := if lastCode < next then '?'.toNat else next
      filledAsFar (adapted distance count isFirst) known (index + 1) false
        (text.take index ++ Char.ofNat known :: text.drop index) behind
termination_by digits.length
decreasing_by exact length_lt_of_number? (by assumption)

/-- The text that octets write. Behind the last hyphen they have to be ASCII; the first one that is
not is told with its place there. -/
def decodeAsFar (octets : List UInt8) : Except (UInt8 × Nat) (List Char) :=
  let behind := (octets.reverse.takeWhile (· != 0x2D)).reverse
  let plain := octets.take (octets.length - behind.length - 1)
  match behind.find? (0x80 ≤ ·) with
  | some octet => .error (octet, (behind.takeWhile (· < 0x80)).length)
  | none =>
    .ok (filledAsFar 72 0x80 0 true
      (plain.map fun b => if b < 0x80 then latinChar b else replacement) (behind.map latinChar))

end ApiOutline.Text.Punycode
