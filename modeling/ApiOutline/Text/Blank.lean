/-
Blank characters: the white space of every script, together with the four information separators
of ASCII. They end words, may stand before a version number and before a document, and are what
trimming removes.
-/
import ApiOutline.Text.Ranges

set_option autoImplicit false

namespace ApiOutline.Text

/-- White space of version 14.0 of the Unicode character database and the control characters
that separate information. -/
def blankRanges : Ranges :=
  [
    (0x9, 0xD), (0x1C, 0x20), (0x85, 0x85), (0xA0, 0xA0), (0x1680, 0x1680), (0x2000, 0x200A),
    (0x2028, 0x2029), (0x202F, 0x202F), (0x205F, 0x205F), (0x3000, 0x3000)
  ]

/-- A blank: nothing is printed for it. -/
def isBlank (c : Char) : Bool :=
  blankRanges.has c.toNat

end ApiOutline.Text
