/-
Unpacking.

Packed octets come in blocks. In a block octets are stored as they are, or they are written in a
code together with references to what came before: so many octets, from so far back. The code is a
fixed one, or it stands in front of the block, written in a code itself. Where the bits end too
early, what could be read until then has been unpacked.
-/
import ApiOutline.Packing.Code

set_option autoImplicit false

namespace ApiOutline.Packing

/-- How unpacking goes on: behind something, not at all, or never again. -/
inductive Progress where
  | on (rest : Bits)
  | short
  | bad (d : Defect)

/-! ## References -/

/-- What a reference begins with: the smallest number that a symbol stands for, and how many bits
are added to it. -/
structure Step where
  base : Nat
  extra : Nat

/-- How many octets a reference repeats. -/
def lengthSteps : List Step :=
  [⟨3, 0⟩, ⟨4, 0⟩, ⟨5, 0⟩, ⟨6, 0⟩, ⟨7, 0⟩, ⟨8, 0⟩, ⟨9, 0⟩, ⟨10, 0⟩, ⟨11, 1⟩, ⟨13, 1⟩, ⟨15, 1⟩,
    ⟨17, 1⟩, ⟨19, 2⟩, ⟨23, 2⟩, ⟨27, 2⟩, ⟨31, 2⟩, ⟨35, 3⟩, ⟨43, 3⟩, ⟨51, 3⟩, ⟨59, 3⟩, ⟨67, 4⟩,
    ⟨83, 4⟩, ⟨99, 4⟩, ⟨115, 4⟩, ⟨131, 5⟩, ⟨163, 5⟩, ⟨195, 5⟩, ⟨227, 5⟩, ⟨258, 0⟩]

/-- How far back it goes. -/
def distanceSteps : List Step :=
  [⟨1, 0⟩, ⟨2, 0⟩, ⟨3, 0⟩, ⟨4, 0⟩, ⟨5, 1⟩, ⟨7, 1⟩, ⟨9, 2⟩, ⟨13, 2⟩, ⟨17, 3⟩, ⟨25, 3⟩, ⟨33, 4⟩,
    ⟨49, 4⟩, ⟨65, 5⟩, ⟨97, 5⟩, ⟨129, 6⟩, ⟨193, 6⟩, ⟨257, 7⟩, ⟨385, 7⟩, ⟨513, 8⟩, ⟨769, 8⟩,
    ⟨1025, 9⟩, ⟨1537, 9⟩, ⟨2049, 10⟩, ⟨3073, 10⟩, ⟨4097, 11⟩, ⟨6145, 11⟩, ⟨8193, 12⟩,
    ⟨12289, 12⟩, ⟨16385, 13⟩, ⟨24577, 13⟩]

/-- The number that a symbol and the bits behind it stand for. -/
def stepNumber (steps : List Step) (d : Defect) (symbol : Nat) : Reader Nat :=
  match steps[symbol]? with
  | some step => do
    let more ← Reader.number step.extra
    return step.base + more
  | none => Reader.fail d

/-- Octets with some repeated at the end, from so far back. What is repeated may overlap with what
it is repeated from. -/
def repeatBack (out : Array UInt8) (distance : Nat) : (count : Nat) → Array UInt8
  | 0 => out
  | count + 1 => repeatBack (out.push (out.getD (out.size - distance) 0)) distance count

/-! ## Blocks -/

/-- The two codes of a block. -/
structure Codes where
  literals : Code
  distances : Code

/-- What a word of a block stands for. -/
inductive Item where
  | octet (b : UInt8)
  | stop
  | back (length distance : Nat)

/-- The symbol that ends a block. -/
def stopSymbol : Nat := 256

def Codes.item (codes : Codes) : Reader Item := do
  let symbol ← codes.literals.symbol .badLiteral
  if symbol < stopSymbol then return .octet (UInt8.ofNat symbol)
  else if symbol = stopSymbol then return .stop
  else
    let length ← stepNumber lengthSteps .badLiteral (symbol - (stopSymbol + 1))
    let far ← codes.distances.symbol .badDistance
    let distance ← stepNumber distanceSteps .badDistance far
    return .back length distance

/-- The items of a block. Every item takes at least one bit, so that as many steps are enough as
there are bits. -/
def items (codes : Codes) : (fuel : Nat) → Bits → Array UInt8 → Array UInt8 × Progress
  | 0, _, out => (out, .short)
  | fuel + 1, bits, out =>
    match codes.item bits with
    | .short => (out, .short)
    | .bad d => (out, .bad d)
    | .done .stop rest => (out, .on rest)
    | .done (.octet b) rest => items codes fuel rest (out.push b)
    | .done (.back length distance) rest =>
      if out.size < distance then (out, .bad .tooFarBack)
      else items codes fuel rest (repeatBack out distance length)

/-- Octets as they are, as many as there are. -/
def stored : (count : Nat) → Bits → Array UInt8 → Array UInt8 × Progress
  | 0, bits, out => (out, .on bits)
  | count + 1, bits, out =>
    match Reader.number 8 bits with
    | .done n rest => stored count rest (out.push (UInt8.ofNat n))
    | .short => (out, .short)
    | .bad d => (out, .bad d)

/-- How many octets are stored, told twice. -/
def storedLength : Reader Nat := do
  Reader.align
  let both ← Reader.number 32
  Reader.demand (both % 0x10000 + both / 0x10000 == 0xFFFF) .badStoredLength
  return both % 0x10000

/-! ## Codes in front of blocks -/

/-- The code of blocks that have none in front of them. -/
def fixedCodes : Option Codes := do
  let literals ← Code.ofLengths? true <|
    List.replicate 144 8 ++ List.replicate 112 9 ++ List.replicate 24 7 ++ List.replicate 8 8
  let distances ← Code.ofLengths? true (List.replicate 32 5)
  return ⟨literals, distances⟩

/-- The order in which the lengths of the code for lengths are told. -/
def lengthOrder : List Nat :=
  [16, 17, 18, 0, 8, 7, 9, 6, 10, 5, 11, 4, 12, 3, 13, 2, 14, 1, 15]

/-- What a word for a length stands for: a length and how often it is repeated. -/
def lengthRun (code : Code) (before : List Nat) : Reader (Nat × Nat) := do
  match ← code.symbol .badLengthCode with
  | 16 => do
    let more ← Reader.number 2
    match before with
    | [] => Reader.fail .badRepeat
    | last :: _ => return (last, 3 + more)
  | 17 => return (0, 3 + (← Reader.number 3))
  | 18 => return (0, 11 + (← Reader.number 7))
  | length => return (length, 1)

/-- As many lengths as are needed, the last one first. -/
def lengthRuns (code : Code) (needed : Nat) : (fuel : Nat) → List Nat → Reader (List Nat)
  | 0, before => Reader.pure before
  | fuel + 1, before =>
    if needed ≤ before.length then Reader.pure before
    else do
      let (length, count) ← lengthRun code before
      Reader.demand (before.length + count ≤ needed) .badRepeat
      lengthRuns code needed fuel (List.replicate count length ++ before)

/-- A code, or else a fault. -/
def orFail (code? : Option Code) (d : Defect) : Reader Code :=
  match code? with
  | some code => Reader.pure code
  | none => Reader.fail d

/-- The code for lengths. If no lengths are told, every bit stands for the length zero. -/
def codeOfLengths (lengths : List Nat) : Option Code :=
  if longest lengths = 0 then some ⟨[[0, 0]]⟩ else Code.ofLengths? false lengths

/-- The codes in front of a block. -/
def toldCodes : Reader Codes := do
  let sizes ← Reader.number 14
  let literals := sizes % 32 + 257
  let distances := sizes / 32 % 32 + 1
  let told := sizes / 1024 + 4
  Reader.demand (literals ≤ 286 && distances ≤ 30) .tooManySymbols
  let short ← Reader.numbers (List.replicate told 3)
  let order := lengthOrder.zip short
  let code ← orFail (codeOfLengths ((List.range 19).map fun i => (order.lookup i).getD 0))
    .badLengthCode
  let all := (← lengthRuns code (literals + distances) (literals + distances) []).reverse
  Reader.demand (all.getD stopSymbol 0 != 0) .noEnd
  let literalCode ← orFail (Code.ofLengths? true (all.take literals)) .badLiteralCode
  let distanceCode ← orFail (Code.ofLengths? true (all.drop literals)) .badDistanceCode
  return ⟨literalCode, distanceCode⟩

/-! ## All blocks -/

/-- What comes at the front of a block. -/
inductive Block where
  | stored (count : Nat)
  | coded (codes : Codes)

def block : Reader (Bool × Block) := do
  let isLast ← Reader.bit
  match ← Reader.number 2 with
  | 0 => return (isLast, .stored (← storedLength))
  | 1 =>
    match fixedCodes with
    | some codes => return (isLast, .coded codes)
    | none => Reader.fail .badBlock
  | 2 => return (isLast, .coded (← toldCodes))
  | _ => Reader.fail .badBlock

/-- The octets of all blocks. -/
def blocks : (fuel : Nat) → Bits → Array UInt8 → Array UInt8 × Progress
  | 0, _, out => (out, .short)
  | fuel + 1, bits, out =>
    match block bits with
    | .short => (out, .short)
    | .bad d => (out, .bad d)
    | .done (isLast, b) rest =>
      let (out, progress) := match b with
        | .stored count => stored count rest out
        | .coded codes => items codes (rest.length + 1) rest out
      match progress with
      | .on rest => if isLast then (out, .on rest) else blocks fuel rest out
      | p => (out, p)

/-- Unpacks everything up to the last block. -/
def inflate (bits : Bits) : Array UInt8 × Progress :=
  blocks (bits.length + 1) bits #[]

end ApiOutline.Packing
