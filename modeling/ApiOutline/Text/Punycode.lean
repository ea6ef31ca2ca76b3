/-
Texts of other scripts in ASCII.

The labels of hosts may hold letters of every script, but the network knows letters, digits and
hyphens. What is ASCII in a text is written first, then a hyphen, and then where the other
characters go in: in the order of their codes, each by the distance from the one before, counting
all the codes and all the places that were passed over. Distances are written in base 36, lowest
digit first, with a threshold for every place under which a digit is the last one. The thresholds
follow the size of the distances so far.

Every loop ends because something gets smaller: the number that is written, the distance that is
scaled down, the digits that are left to read.
-/

set_option autoImplicit false

namespace ApiOutline.Text.Punycode

/-! ## Thresholds -/

/-- The digit from which on a number goes on behind a place. -/
def threshold (bias place : Nat) : Nat :=
  min 26 (max 1 (36 * (place + 1) - bias))

theorem threshold_pos (bias place : Nat) : 1 ≤ threshold bias place := by
  unfold threshold; omega

/-- A distance divided by 35 until it is small, with 36 for every division. -/
def scaledDown (distance steps : Nat) : Nat × Nat :=
  if 455 < distance then scaledDown (distance / 35) (steps + 36) else (distance, steps)
termination_by distance
decreasing_by exact Nat.div_lt_self (by omega) (by omega)

/-- The bias behind a distance, in a text that has `count` characters by then. The first distance
is the largest one as a rule. -/
def adapted (distance count : Nat) (isFirst : Bool) : Nat :=
  let damped := if isFirst then distance / 700 else distance / 2
  let (small, steps) := scaledDown (damped + damped / count) 0
  steps + 36 * small / (small + 38)

/-! ## Writing -/

def digit (n : Nat) : Char :=
  if n < 26 then Char.ofNat (0x61 + n) else Char.ofNat (0x30 + (n - 26))

/-- The digits of a number from a place on. -/
def digitsFrom (bias place n : Nat) : List Char :=
  let t := threshold bias place
  if n < t then [digit n]
  else digit (t + (n - t) % (36 - t)) :: digitsFrom bias (place + 1) ((n - t) / (36 - t))
termination_by n
decreasing_by
  have := threshold_pos bias place
  exact Nat.lt_of_le_of_lt (Nat.div_le_self ..) (by omega)

/-- A label that is being written. -/
structure Writing where
  digits : List Char
  /-- The places that were passed over. -/
  distance : Nat
  bias : Nat
  /-- How many characters are written. -/
  count : Nat
  isFirst : Bool

/-- Passes over a place of the label, in the round in which the characters of a code are
written. -/
def Writing.pass (code : Nat) (w : Writing) (c : Char) : Writing :=
  if c.toNat < code then { w with distance := w.distance + 1 }
  else if c.toNat = code then
    { digits := w.digits ++ digitsFrom w.bias 0 w.distance
      distance := 0
      bias := adapted w.distance (w.count + 1) w.isFirst
      count := w.count + 1
      isFirst := false }
  else w

/-- A round for every code, from a code on. -/
def Writing.rounds (label : List Char) : (code : Nat) → List Nat → Writing → Writing
  | _, [], w => w
  | code, next :: rest, w =>
    let ready := { w with distance := w.distance + (next - code) * (w.count + 1) }
    let done := label.foldl (Writing.pass next) ready
    rounds label (next + 1) rest { done with distance := done.distance + 1 }

def isAscii (c : Char) : Bool := c.toNat < 0x80

/-- A label in ASCII. -/
def encode (label : List Char) : List Char :=
  let plain := label.filter isAscii
  let codes := (((label.filter (!isAscii ·)).map Char.toNat).mergeSort).eraseDups
  let written := Writing.rounds label 0x80 codes ⟨[], 0, 72, plain.length, true⟩
  (if plain.isEmpty then [] else plain ++ ['-']) ++ written.digits

/-! ## Reading -/

def digitValue? (c : Char) : Option Nat :=
  if 'a' ≤ c ∧ c ≤ 'z' then some (c.toNat - 0x61)
  else if 'A' ≤ c ∧ c ≤ 'Z' then some (c.toNat - 0x41)
  else if '0' ≤ c ∧ c ≤ '9' then some (c.toNat - 0x30 + 26)
  else none

/-- The number at the front of some digits, from a place on, and the digits behind it. -/
def number? (bias : Nat) : (place weight sum : Nat) → List Char → Option (Nat × List Char)
  | _, _, _, [] => none
  | place, weight, sum, c :: rest =>
    match digitValue? c with
    | none => none
    | some d =>
      let t := threshold bias place
      if d < t then some (sum + d * weight, rest)
      else number? bias (place + 1) (weight * (36 - t)) (sum + d * weight) rest

theorem length_lt_of_number? {bias place weight sum n : Nat} {cs behind : List Char}
    (h : number? bias place weight sum cs = some (n, behind)) : behind.length < cs.length := by
  induction cs generalizing place weight sum with
  | nil => simp [number?] at h
  | cons c rest ih =>
    rw [number?] at h
    split at h
    · simp at h
    · simp only at h
      split at h
      · simp only [Option.some.injEq, Prod.mk.injEq] at h
        simp [h.2]
      · exact Nat.lt_succ_of_lt (ih h)

/-- The largest code of a character. -/
def lastCode : Nat := 0x10FFFF

/-- The label in which more characters go in, behind those of smaller codes and, among those of
one code, behind a place. A code that belongs to no character makes a null character, which no
name may contain. -/
def filled (bias code place : Nat) (isFirst : Bool) (label : List Char) (digits : List Char) :
    Option (List Char) :=
  if digits.isEmpty then some label
  else
    match _h : number? bias 0 1 0 digits with
    | none => none
    | some (distance, behind) =>
      let count := label.length + 1
      let next := code + (place + distance) / count
      let index := (place + distance) % count
      if lastCode < next then none
      else
        filled (adapted distance count isFirst) next (index + 1) false
          (label.take index ++ Char.ofNat next :: label.drop index) behind
termination_by digits.length
decreasing_by exact length_lt_of_number? (by assumption)

/-- What stands before and behind the last hyphen. Without a hyphen everything is behind it. -/
def halves (cs : List Char) : List Char × List Char :=
  let behind := (cs.reverse.takeWhile (· != '-')).reverse
  (cs.take (cs.length - behind.length - 1), behind)

/-- The label that is written in ASCII, if one is. -/
def decode (cs : List Char) : Option (List Char) :=
  let (plain, digits) := halves cs
  filled 72 0x80 0 true plain digits

end ApiOutline.Text.Punycode
