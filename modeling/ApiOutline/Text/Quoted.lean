/-
Texts in quotes.

A text inside another one stands in quotes, and what could not be seen there is written by its
number. So are octets, which may stand for anything.
-/
import ApiOutline.Decimal.Shortest
import ApiOutline.Text.Printable

set_option autoImplicit false

namespace ApiOutline.Text

/-- `n` in hexadecimal, small letters, with at least `width` digits. -/
def hexText (width n : Nat) : String :=
  Decimal.padded width (String.ofList (Nat.toDigits 16 n))

/-- One quote or the other: double quotes only for a text with single quotes and no double ones. -/
def quoteFor (cs : List Char) : Char :=
  if cs.contains '\x27' && !cs.contains '\x22' then '\x22' else '\x27'

/-- One character inside quotes. What is not printable is written by its number. -/
def quotedChar (quote c : Char) : String :=
  if c = quote then String.ofList ['\\', c]
  else if c = '\\' then "\\\\"
  else if c = '\n' then "\\n"
  else if c = '\r' then "\\r"
  else if c = '\t' then "\\t"
  else if isPrintable c then String.ofList [c]
  else if c.toNat < 0x100 then "\\x" ++ hexText 2 c.toNat
  else if c.toNat < 0x10000 then "\\u" ++ hexText 4 c.toNat
  else "\\U" ++ hexText 8 c.toNat

/-- A text in quotes. -/
def quoted (s : String) : String :=
  let cs := s.toList
  let quote := quoteFor cs
  String.ofList [quote] ++ String.join (cs.map (quotedChar quote)) ++ String.ofList [quote]

/-- Octets in quotes, marked as such. Those that are no printable ASCII are written by number. -/
def quotedOctets (octets : List UInt8) : String :=
  let cs := octets.map fun b => Char.ofNat b.toNat
  let quote := quoteFor cs
  let octet (c : Char) : String :=
    if 0x7F ≤ c.toNat then "\\x" ++ hexText 2 c.toNat else quotedChar quote c
  "b" ++ String.ofList [quote] ++ String.join (cs.map octet) ++ String.ofList [quote]

end ApiOutline.Text
