/-
Encodings with escapes.

Octets are the numbers of their characters, and a backslash announces a character by its number in
hexadecimal digits, or, in the richer of the two encodings, by a letter or in octal digits.
Announcements that are broken off become a replacement character.
-/
import ApiOutline.Text.Encoding.Wide
import ApiOutline.Text.Numeral

set_option autoImplicit false

namespace ApiOutline.Text

/-- What an octet stands for in Latin. -/
def latinChar (b : UInt8) : Char := Char.ofNat b.toNat

/-- How many hexadecimal digits follow a letter. -/
def announcedDigits? : Char → Option Nat
  | 'x' => some 2
  | 'u' => some 4
  | 'U' => some 8
  | _ => none

/-- The character that some digits announce. There have to be as many as were announced. -/
def announcedChar (width : Nat) (digits : List Char) : Char :=
  match numeral? 16 digits with
  | some n => if digits.length = width && n.isValidChar then Char.ofNat n else replacement
  | none => replacement

/-- The digits at the front, as many as were announced at most. -/
def digitsAhead (isDigit : Char → Bool) (width : Nat) (cs : List Char) : List Char :=
  (cs.take width).takeWhile isDigit

def isHexDigit (c : Char) : Bool := (digitIn? 16 c).isSome

def isOctalDigit (c : Char) : Bool := (digitIn? 8 c).isSome

/-- The characters behind which only numbers are escaped. A backslash in front of anything else
stands for itself, together with what follows it. -/
def numbersUnescaped : List Char → List Char
  | [] => []
  | ['\\'] => ['\\']
  | '\\' :: c :: rest =>
    match announcedDigits? c with
    | some width =>
      if c == 'x' then '\\' :: c :: numbersUnescaped rest
      else
        let digits := digitsAhead isHexDigit width rest
        announcedChar width digits :: numbersUnescaped (rest.drop digits.length)
    | none => '\\' :: c :: numbersUnescaped rest
  | c :: rest => c :: numbersUnescaped rest
termination_by cs => cs.length
decreasing_by all_goals simp only [List.length_drop, List.length_cons]; omega

/-- What a letter behind a backslash stands for. -/
def namedEscape? : Char → Option (List Char)
  | '\n' => some []
  | '\\' => some ['\\']
  | '\x27' => some ['\x27']
  | '\x22' => some ['\x22']
  | 'b' => some ['\x08']
  | 'f' => some ['\x0c']
  | 't' => some ['\t']
  | 'n' => some ['\n']
  | 'r' => some ['\r']
  | 'v' => some ['\x0b']
  | 'a' => some ['\x07']
  | _ => none

/-- The characters of a text with escapes of every kind. -/
def unescaped : List Char → List Char
  | [] => []
  | ['\\'] => [replacement]
  | '\\' :: c :: rest =>
    match namedEscape? c with
    | some written => written ++ unescaped rest
    | none =>
      match announcedDigits? c with
      | some width =>
        let digits := digitsAhead isHexDigit width rest
        announcedChar width digits :: unescaped (rest.drop digits.length)
      | none =>
        if isOctalDigit c then
          let more := digitsAhead isOctalDigit 2 rest
          Char.ofNat ((numeral? 8 (c :: more)).getD 0) :: unescaped (rest.drop more.length)
        else '\\' :: c :: unescaped rest
  | c :: rest => c :: unescaped rest
termination_by cs => cs.length
decreasing_by all_goals simp only [List.length_drop, List.length_cons]; omega

end ApiOutline.Text
