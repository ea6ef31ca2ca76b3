/-
Letters among octets.

Octets that have not been read as a text still have case, as far as they are ASCII: the octets of
the letters `a` to `z` stand for small letters, whatever the others mean.
-/

set_option autoImplicit false

namespace ApiOutline.Text

/-- An octet in small letters. -/
def lowerOctet (b : UInt8) : UInt8 :=
  if 0x41 ≤ b ∧ b ≤ 0x5A then b + 0x20 else b

/-- An octet in capitals. -/
def upperOctet (b : UInt8) : UInt8 :=
  if 0x61 ≤ b ∧ b ≤ 0x7A then b - 0x20 else b

def lowerOctets (octets : List UInt8) : List UInt8 := octets.map lowerOctet

def upperOctets (octets : List UInt8) : List UInt8 := octets.map upperOctet

/-- Octets with the first one in capitals and the others in small letters. -/
def capitalizeOctets : List UInt8 → List UInt8
  | [] => []
  | b :: rest => upperOctet b :: lowerOctets rest

end ApiOutline.Text
