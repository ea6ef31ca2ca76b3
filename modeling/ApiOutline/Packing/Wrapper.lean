/-
Packed octets with something around them.

In front of packed octets stands what tells that they are packed, behind them stands a sum by which
what was unpacked can be checked. There are two kinds of wrapping, and octets may also come without
any. Octets that are broken off are unpacked as far as they go.
-/
import ApiOutline.Packing.Inflate

set_option autoImplicit false

namespace ApiOutline.Packing

/-! ## Sums -/

/-- Two sums, of the octets and of the sums so far. -/
def adler (octets : List UInt8) : Nat :=
  let (a, b) := octets.foldl
    (fun (a, b) octet => ((a + octet.toNat) % 65521, (b + a + octet.toNat) % 65521)) (1, 0)
  b * 0x10000 + a

/-- The remainder of a division of polynomials, for one octet more. -/
def crcStep (sum : UInt32) (octet : UInt8) : UInt32 :=
  (List.range 8).foldl
    (fun r _ => if r &&& 1 = 1 then (r >>> 1) ^^^ 0xEDB88320 else r >>> 1)
    (sum ^^^ octet.toUInt32)

/-- The remainder of a division of polynomials. -/
def crc (octets : List UInt8) : UInt32 :=
  (octets.foldl crcStep 0xFFFFFFFF) ^^^ 0xFFFFFFFF

/-! ## What stands in front -/

/-- The header of the short kind of wrapping. Method and window are told in the first octet. -/
def shortHeader : Reader Unit := do
  let both ← Reader.number 16
  let first := both % 0x100
  let second := both / 0x100
  Reader.demand ((first * 0x100 + second) % 31 == 0) .badHeader
  Reader.demand (first % 16 == 8) .badMethod
  Reader.demand (first / 16 + 8 ≤ 15) .badWindow
  if second.testBit 5 then do
    let _ ← Reader.number 32
    Reader.fail .needsMore
  else return ()

/-- Octets up to a zero. -/
def skipText : (fuel : Nat) → Reader Unit
  | 0 => fun _ => .short
  | fuel + 1 => do
    let n ← Reader.number 8
    if n = 0 then return () else skipText fuel

/-- Something that is only there if it is announced. -/
def ifTold (told : Bool) (r : Reader Unit) : Reader Unit :=
  if told then r else Reader.pure ()

/-- The header of the long kind of wrapping, of which all is read: method and flags, a time, two
octets more, and what the flags announce. `all` is everything there is, for the sum of the header
itself. -/
def longHeader (all : List UInt8) : Reader Unit := do
  let magic ← Reader.number 16
  Reader.demand (magic == 0x8B1F) .badHeader
  let both ← Reader.number 16
  let flags := both / 0x100
  Reader.demand (both % 0x100 == 8) .badMethod
  Reader.demand (flags / 32 == 0) .badFlags
  let _ ← Reader.number 32
  let _ ← Reader.number 16
  ifTold (flags.testBit 2) do
    let count ← Reader.number 16
    let _ ← Reader.numbers (List.replicate count 8)
  ifTold (flags.testBit 3) (skipText (all.length + 1))
  ifTold (flags.testBit 4) (skipText (all.length + 1))
  ifTold (flags.testBit 1) fun bits =>
    let read := all.take (all.length - bits.length / 8)
    match Reader.number 16 bits with
    | .done sum rest =>
      if sum = (crc read).toNat % 0x10000 then .done () rest else .bad .badHeaderSum
    | .short => .short
    | .bad d => .bad d

/-! ## What stands behind -/

/-- A number of four octets, the largest first. -/
def bigNumber : Reader Nat := do
  let ns ← Reader.numbers [8, 8, 8, 8]
  return ns.foldl (fun n b => n * 0x100 + b) 0

def shortTrailer (out : List UInt8) : Reader Unit := do
  Reader.align
  let sum ← bigNumber
  Reader.demand (sum == adler out) .badSum

def longTrailer (out : List UInt8) : Reader Unit := do
  Reader.align
  let sum ← Reader.number 32
  Reader.demand (sum == (crc out).toNat) .badSum
  let size ← Reader.number 32
  Reader.demand (size == out.length % 0x100000000) .badSize

/-! ## Both -/

/-- What is unpacked from octets between a header and a trailer. -/
def unwrap (header : Reader Unit) (trailer : List UInt8 → Reader Unit) (octets : List UInt8) :
    Except Defect (List UInt8) :=
  match header (bitsOf octets) with
  | .bad d => .error d
  | .short => .ok []
  | .done _ bits =>
    let (out, progress) := inflate bits
    let out := out.toList
    match progress with
    | .bad d => .error d
    | .short => .ok out
    | .on rest =>
      match trailer out rest with
      | .bad d => .error d
      | _ => .ok out

/-- Unpacks octets with the long kind of wrapping. -/
def unzip (octets : List UInt8) : Except Defect (List UInt8) :=
  unwrap (longHeader octets) longTrailer octets

/-- Unpacks octets with the short kind of wrapping or, if that fails, with none. -/
def unpack (octets : List UInt8) : Except Defect (List UInt8) :=
  match unwrap shortHeader shortTrailer octets with
  | .ok out => .ok out
  | .error _ => unwrap (Reader.pure ()) (fun _ => Reader.pure ()) octets

end ApiOutline.Packing
