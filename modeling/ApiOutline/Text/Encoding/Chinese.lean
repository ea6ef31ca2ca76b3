/-
Encodings for Chinese.

Octets of ASCII stand for themselves, and a larger octet begins a character of two octets, whose
second one may be ASCII. One encoding reaches every character there is: where the second octet is a
digit, a character takes four.
-/
import ApiOutline.Text.Encoding.Beginning
import ApiOutline.Text.Encoding.Grid.BigFive
import ApiOutline.Text.Encoding.Grid.Guobiao
import ApiOutline.Text.Encoding.Grid.HongKong

set_option autoImplicit false

namespace ApiOutline.Text

inductive ChineseEncoding where
  /-- GB 2312, with both octets large. -/
  | guobiao
  /-- GBK. -/
  | wideGuobiao
  /-- GB 18030. -/
  | fullGuobiao
  /-- Big 5. -/
  | bigFive
  /-- Big 5 in the edition with the number 950. -/
  | bigFive950
  /-- Big 5 with the supplementary set of Hong Kong. -/
  | hongKong
  deriving DecidableEq, Repr

namespace ChineseEncoding

/-- The character of two octets in a set that is numbered from 0x21 on. -/
def inGuobiao? (a b : Nat) : Option Char :=
  Grid.guobiao.character? (a - 0x80) (b - 0x80)

def inWideGuobiao? (a b : Nat) : Option Char :=
  (Grid.guobiaoFurther.character? a b).or (inGuobiao? a b)

/-- How many characters of up to sixteen bits four octets write. -/
def runsEnd : Nat := 39420

/-- The character at a place among those of up to sixteen bits that four octets write. -/
def inRuns? (place : Nat) : Option Char :=
  if runsEnd ≤ place then none
  else
    (Grid.guobiaoRuns.takeWhile (·.1 ≤ place)).getLast?.map fun run =>
      Char.ofNat (run.2 + (place - run.1))

/-- The character of four octets, of which the second one is a digit. They count in tens and in
steps of 126, the smaller characters from 0x81 on and the larger ones from 0x90 on. -/
def ofFour? (a b c d : Nat) : Option Char :=
  let place (first : Nat) : Nat :=
    (((a - first) * 10 + (b - 0x30)) * 126 + (c - 0x81)) * 10 + (d - 0x30)
  if c < 0x81 || 0xFE < c || d < 0x30 || 0x39 < d then none
  else if 0x81 ≤ a && a ≤ 0x84 then inRuns? (place 0x81)
  else if 0x90 ≤ a && a ≤ 0xFE then
    let code := 0x10000 + place 0x90
    if code.isValidChar then some (Char.ofNat code) else none
  else none

/-- What octets begin with, of which the first one is no ASCII. -/
def front (e : ChineseEncoding) (a : Nat) : List Nat → Beginning
  | [] => .part
  | b :: rest =>
    match e with
    | .guobiao => .ofCharacter (inGuobiao? a b) 1
    | .wideGuobiao => .ofCharacter (inWideGuobiao? a b) 1
    | .fullGuobiao =>
      if 0x30 ≤ b && b ≤ 0x39 then
        match rest with
        | c :: d :: _ => .ofCharacter (ofFour? a b c d) 3
        | _ => .part
      else .ofCharacter ((inWideGuobiao? a b).or (Span.character? Grid.guobiaoPrivate a b)) 1
    | .bigFive => .ofCharacter (Grid.bigFive.character? a b) 1
    | .bigFive950 => .ofCharacter ((Grid.bigFiveChanged ++ Grid.bigFive).character? a b) 1
    | .hongKong =>
      match composed? Grid.hongKongComposed a b with
      | some cs => .characters cs 1
      | none => .ofCharacter ((Grid.hongKong ++ Grid.bigFive).character? a b) 1

def toChars? (e : ChineseEncoding) (octets : List Nat) : Option (List Char) :=
  charactersBeyondAscii? e.front octets

end ChineseEncoding

end ApiOutline.Text
