/-
Texts as octets.

Files and answers from the network are octets, read as UTF-8. The reader goes from character to
character; where none can be read it notes the gap and goes on behind the octets that began one.
A strict reader refuses a text with gaps, a lenient one writes a replacement character into each.
-/

set_option autoImplicit false

namespace ApiOutline.Text

/-- What the first octet of a character announces: how many follow, the range of the next one, and
the bits it contributes. -/
structure Lead where
  count : Nat
  lo : Nat
  hi : Nat
  bits : Nat

/-- The announcement of an octet, if a character can begin with it. The ranges of the second octet
leave out forms that are too long, surrogates and what lies beyond the last character. -/
def lead? (b : Nat) : Option Lead :=
  if b < 0x80 then some ⟨0, 0, 0, b⟩
  else if 0xC2 ≤ b && b ≤ 0xDF then some ⟨1, 0x80, 0xBF, b % 0x20⟩
  else if b = 0xE0 then some ⟨2, 0xA0, 0xBF, 0⟩
  else if b = 0xED then some ⟨2, 0x80, 0x9F, b % 0x10⟩
  else if 0xE1 ≤ b && b ≤ 0xEF then some ⟨2, 0x80, 0xBF, b % 0x10⟩
  else if b = 0xF0 then some ⟨3, 0x90, 0xBF, 0⟩
  else if 0xF1 ≤ b && b ≤ 0xF3 then some ⟨3, 0x80, 0xBF, b % 0x08⟩
  else if b = 0xF4 then some ⟨3, 0x80, 0x8F, b % 0x08⟩
  else none

/-- The octets that follow a first one, as far as they fit, and what is left behind them. -/
def followers : (count lo hi bits : Nat) → List UInt8 → Option Nat × List UInt8
  | 0, _, _, bits, rest => (some bits, rest)
  | _ + 1, _, _, _, [] => (none, [])
  | count + 1, lo, hi, bits, b :: rest =>
    if lo ≤ b.toNat && b.toNat ≤ hi then
      followers count 0x80 0xBF (bits * 0x40 + b.toNat % 0x40) rest
    else (none, b :: rest)

theorem followers_length (count lo hi bits : Nat) (octets : List UInt8) :
    (followers count lo hi bits octets).2.length ≤ octets.length := by
  induction octets generalizing count lo hi bits with
  | nil => cases count <;> simp [followers]
  | cons b rest ih =>
    cases count with
    | zero => simp [followers]
    | succ count =>
      simp only [followers]
      split
      · exact Nat.le_succ_of_le (ih ..)
      · simp

/-- The characters that octets write, with a gap wherever they write none. -/
def decodeGaps (octets : List UInt8) : List (Option Char) :=
  match octets with
  | [] => []
  | b :: rest =>
    match lead? b.toNat with
    | none => none :: decodeGaps rest
    | some l =>
      let step := followers l.count l.lo l.hi l.bits rest
      step.1.map Char.ofNat :: decodeGaps step.2
termination_by octets.length
decreasing_by
  · simp
  · exact Nat.lt_succ_of_le (followers_length ..)

/-- The text that octets write, if it has no gaps. -/
def decodeUtf8? (octets : List UInt8) : Option String :=
  ((decodeGaps octets).mapM id).map String.ofList

/-- The text that octets write, with a replacement character in every gap. -/
def decodeUtf8Lenient (octets : List UInt8) : String :=
  String.ofList ((decodeGaps octets).map fun c? => c?.getD (Char.ofNat 0xFFFD))

/-- The octets of a text. -/
def encodeUtf8 (s : String) : List UInt8 :=
  s.toUTF8.toList

end ApiOutline.Text
