/-
Encodings in units of several octets.

A character is one unit of four octets, or one or two units of two octets, with the larger or the
smaller octet first. A mark at the front may tell which of the two. Where units stand for no
character, and where octets are missing at the end, a replacement character is written.
-/
import ApiOutline.Text.Utf8

set_option autoImplicit false

namespace ApiOutline.Text

/-- The order of octets in a unit. -/
inductive OctetOrder where
  | largeFirst
  | smallFirst
  deriving DecidableEq, Repr

/-- The number that octets write, the larger ones first. -/
def bigNumber (octets : List UInt8) : Nat :=
  octets.foldl (fun n b => n * 0x100 + b.toNat) 0

def OctetOrder.number (order : OctetOrder) (octets : List UInt8) : Nat :=
  match order with
  | .largeFirst => bigNumber octets
  | .smallFirst => bigNumber octets.reverse

/-- What is written in place of what stands for no character. -/
def replacement : Char := Char.ofNat 0xFFFD

/-- Half of a pair: the units that only stand for a character together with another. -/
def isLeadingHalf (n : Nat) : Bool := 0xD800 ≤ n && n ≤ 0xDBFF

def isTrailingHalf (n : Nat) : Bool := 0xDC00 ≤ n && n ≤ 0xDFFF

/-- The character of two halves. -/
def joinHalves (a b : Nat) : Char :=
  Char.ofNat (0x10000 + (a - 0xD800) * 0x400 + (b - 0xDC00))

/-- The characters that octets write in units of two. A leading half at the end takes a single
octet behind it along. -/
def pairsToChars (order : OctetOrder) : List UInt8 → List Char
  | a :: b :: c :: d :: rest =>
    let n := order.number [a, b]
    let m := order.number [c, d]
    if isLeadingHalf n then
      if isTrailingHalf m then joinHalves n m :: pairsToChars order rest
      else replacement :: pairsToChars order (c :: d :: rest)
    else if isTrailingHalf n then replacement :: pairsToChars order (c :: d :: rest)
    else Char.ofNat n :: pairsToChars order (c :: d :: rest)
  | [a, b, c] =>
    let n := order.number [a, b]
    if isLeadingHalf n then [replacement]
    else [if isTrailingHalf n then replacement else Char.ofNat n] ++ pairsToChars order [c]
  | [a, b] =>
    let n := order.number [a, b]
    [if isLeadingHalf n || isTrailingHalf n then replacement else Char.ofNat n]
  | [_] => [replacement]
  | [] => []
termination_by octets => octets.length

/-- The characters that octets write in units of four. -/
def quadsToChars (order : OctetOrder) : List UInt8 → List Char
  | a :: b :: c :: d :: rest =>
    let n := order.number [a, b, c, d]
    (if n.isValidChar then Char.ofNat n else replacement) :: quadsToChars order rest
  | [] => []
  | _ => [replacement]

/-- The order that a mark of a given width at the front tells, and what stands behind the mark. -/
def markedOrder? (width : Nat) (octets : List UInt8) : Option (OctetOrder × List UInt8) :=
  if octets.length < width then none
  else if OctetOrder.largeFirst.number (octets.take width) = 0xFEFF then
    some (.largeFirst, octets.drop width)
  else if OctetOrder.smallFirst.number (octets.take width) = 0xFEFF then
    some (.smallFirst, octets.drop width)
  else none

/-- The mark at the front of a text of single octets. -/
def singleMark : List UInt8 := [0xEF, 0xBB, 0xBF]

/-- The text of octets without the mark at the front. Part of a mark alone is taken for one. -/
def decodeMarked (octets : List UInt8) : String :=
  if octets.length < singleMark.length && singleMark.take octets.length == octets then ""
  else if octets.take singleMark.length == singleMark then
    decodeUtf8Lenient (octets.drop singleMark.length)
  else decodeUtf8Lenient octets

end ApiOutline.Text
