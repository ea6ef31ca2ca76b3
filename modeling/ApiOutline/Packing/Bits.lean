/-
Bits.

Packed octets are read bit by bit, the lowest bit of every octet first, and numbers are written
with their lowest bit first. Reading something ends in one of three ways: it is there, the bits end
before it does, or it is none.
-/

set_option autoImplicit false

namespace ApiOutline.Packing

/-- What is wrong with packed octets. -/
inductive Defect where
  | badHeader
  | badMethod
  | badWindow
  | badFlags
  | badHeaderSum
  /-- Something was left out that the reader should know. -/
  | needsMore
  | badBlock
  | badStoredLength
  | tooManySymbols
  | badLengthCode
  | badRepeat
  | noEnd
  | badLiteralCode
  | badDistanceCode
  | badLiteral
  | badDistance
  | tooFarBack
  | badSum
  | badSize
  deriving DecidableEq, Repr

def Defect.message (d : Defect) : String :=
  let reason := match d with
    | .badHeader => "incorrect header check"
    | .badMethod => "unknown compression method"
    | .badWindow => "invalid window size"
    | .badFlags => "unknown header flags set"
    | .badHeaderSum => "header crc mismatch"
    | .needsMore => "need dictionary"
    | .badBlock => "invalid block type"
    | .badStoredLength => "invalid stored block lengths"
    | .tooManySymbols => "too many length or distance symbols"
    | .badLengthCode => "invalid code lengths set"
    | .badRepeat => "invalid bit length repeat"
    | .noEnd => "invalid code -- missing end-of-block"
    | .badLiteralCode => "invalid literal/lengths set"
    | .badDistanceCode => "invalid distances set"
    | .badLiteral => "invalid literal/length code"
    | .badDistance => "invalid distance code"
    | .tooFarBack => "invalid distance too far back"
    | .badSum => "incorrect data check"
    | .badSize => "incorrect length check"
  "Error -3 while decompressing data: " ++ reason

abbrev Bits := List Bool

/-- The bits of octets. -/
def bitsOf (octets : List UInt8) : Bits :=
  octets.flatMap fun b => (List.range 8).map b.toNat.testBit

/-- How the reading of something ends. -/
inductive Outcome (α : Type) where
  | done (value : α) (rest : Bits)
  /-- The bits end before it does. -/
  | short
  | bad (d : Defect)

/-- A reader of something. -/
def Reader (α : Type) := Bits → Outcome α

namespace Reader

variable {α β : Type}

def pure (value : α) : Reader α := fun bits => .done value bits

def bind (r : Reader α) (next : α → Reader β) : Reader β := fun bits =>
  match r bits with
  | .done value rest => next value rest
  | .short => .short
  | .bad d => .bad d

instance : Monad Reader where
  pure := Reader.pure
  bind := Reader.bind

def fail (d : Defect) : Reader α := fun _ => .bad d

/-- Fails unless something holds. -/
def demand (holds : Bool) (d : Defect) : Reader Unit :=
  if holds then Reader.pure () else fail d

/-- One bit. -/
def bit : Reader Bool
  | [] => .short
  | b :: rest => .done b rest

/-- A number of some bits. -/
def number : (width : Nat) → Reader Nat
  | 0 => Reader.pure 0
  | width + 1 => do
    let low ← bit
    let high ← number width
    return 2 * high + low.toNat

/-- A number for every width. -/
def numbers : List Nat → Reader (List Nat)
  | [] => Reader.pure []
  | width :: rest => do
    let n ← number width
    let others ← numbers rest
    return n :: others

/-- Goes on to the next octet. All the bits together are whole octets. -/
def align : Reader Unit := fun bits => .done () (bits.drop (bits.length % 8))

end Reader

end ApiOutline.Packing
