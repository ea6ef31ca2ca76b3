/-
Octets behind percent signs.

A character that cannot stand where it is meant to stand in an address is written as its octets,
each behind a percent sign in two hexadecimal digits. What is written like this can be read back,
and a percent sign that begins nothing of the kind stands for itself.
-/
import ApiOutline.Text.Numeral
import ApiOutline.Text.Utf8
import ApiOutline.Value.Text

set_option autoImplicit false

namespace ApiOutline.Web.Percent

/-- Characters that are never written as octets. -/
def isUnreserved (c : Char) : Bool :=
  c.isAlphanum || c == '-' || c == '.' || c == '_' || c == '~'

/-- An octet behind a percent sign. -/
def octetText (b : UInt8) : List Char :=
  '%' :: ((Text.hexText 2 b.toNat).toList.map Char.toUpper)

/-- A text in which all characters but the allowed ones are written as octets. -/
def encode (allowed : Char → Bool) (s : String) : String :=
  String.ofList (s.toList.flatMap fun c =>
    if isUnreserved c || allowed c then [c]
    else (Text.encodeUtf8 (String.ofList [c])).flatMap octetText)

/-- The octets that a text of ASCII stands for. -/
def octets : List Char → List UInt8
  | '%' :: a :: b :: rest =>
    match Text.numeral? 16 [a, b] with
    | some n => UInt8.ofNat n :: octets rest
    | none => UInt8.ofNat 0x25 :: octets (a :: b :: rest)
  | c :: rest => UInt8.ofNat c.toNat :: octets rest
  | [] => []

/-- The text that a text of ASCII stands for. -/
def decode (s : String) : String :=
  Text.decodeUtf8Lenient (octets s.toList)

end ApiOutline.Web.Percent
