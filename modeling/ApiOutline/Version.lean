/-
Versions and ranges of versions.

The version of a description is read leniently: blanks and a `v` may stand before it, anything
behind it, and parts that are missing are zero. A range is either a major version with any minor
one, `1.x`, or a caret with the least version that will do, `^2.0`: later versions do as well as
long as the major number is the same.
-/
import ApiOutline.Fault
import ApiOutline.Text.Blank
import ApiOutline.Text.Digit

set_option autoImplicit false

namespace ApiOutline

/-- Major, minor and patch number. -/
structure Version where
  major : Nat
  minor : Nat
  patch : Nat
  deriving DecidableEq, Repr

namespace Version

/-- Is the first version no later than the second? Parts are compared in order. -/
def atMost (a b : Version) : Bool :=
  a.major < b.major || (a.major == b.major &&
    (a.minor < b.minor || (a.minor == b.minor && a.patch ≤ b.patch)))

/-- A run of decimal digits, if there is one, and what follows it. -/
def digits? (cs : List Char) : Option (List Char × List Char) :=
  match cs.takeWhile Text.isDecimal with
  | [] => none
  | ds => some (ds, cs.dropWhile Text.isDecimal)

/-- A point and a run of digits, if they come next, and what follows. -/
def part (cs : List Char) : Option (List Char) × List Char :=
  match cs with
  | '.' :: rest =>
    match digits? rest with
    | some (ds, behind) => (some ds, behind)
    | none => (none, cs)
  | _ => (none, cs)

/-- The digits of up to three parts, and what follows them. -/
structure Parts where
  major : List Char
  minor : Option (List Char)
  patch : Option (List Char)
  rest : List Char

/-- Up to three parts at the front of a text. -/
def parts? (cs : List Char) : Option Parts :=
  (digits? cs).map fun (major, behind) =>
    let (minor, behind) := part behind
    let (patch, behind) := part behind
    ⟨major, minor, patch, behind⟩

/-- The number that digits write, if they are not too many. -/
def number (ds : List Char) : Except Fault Nat :=
  if ds.length ≤ Fault.digitLimit then .ok (Text.decimalNumber ds)
  else .error (.tooManyDigits ds.length)

/-- The number of a part that may be missing. -/
def partNumber : Option (List Char) → Except Fault Nat
  | none => .ok 0
  | some ds => number ds

def Parts.version (p : Parts) : Except Fault Version := do
  let major ← number p.major
  let minor ← partNumber p.minor
  let patch ← partNumber p.patch
  return ⟨major, minor, patch⟩

/-- The text behind blanks and an optional `v`. -/
def body (cs : List Char) : List Char :=
  match cs.dropWhile Text.isBlank with
  | 'v' :: rest => rest
  | rest => rest

/-- A version read leniently, as `coerce_version` reads a text; nothing, if no digit begins it.
Each number is limited in its digits. -/
def read? (text : String) : Except Fault (Option Version) :=
  match parts? (body text.toList) with
  | none => .ok none
  | some p => p.version.map some

/-! ## Ranges -/

/-- A range of versions, as digits. -/
inductive Range where
  | anyMinor (major : List Char)
  | caret (least : Parts)

/-- The end of a text, or a line feed that is its end. -/
def atEnd (cs : List Char) : Bool :=
  cs == [] || cs == ['\n']

/-- The range that a text writes. -/
def Range.read? (cs : List Char) : Option Range :=
  match cs with
  | '^' :: rest => (parts? rest).bind fun p => if atEnd p.rest then some (.caret p) else none
  | _ =>
    match digits? cs with
    | some (major, '.' :: wild :: rest) =>
      if (wild == 'x' || wild == 'X' || wild == '*') && atEnd rest then some (.anyMinor major)
      else none
    | _ => none

/-- Is a version in a range? -/
def Range.holds (v : Version) : Range → Except Fault Bool
  | .anyMinor major => (number major).map fun m => v.major == m
  | .caret least => least.version.map fun low => v.major == low.major && low.atMost v

/-- Does the version that a text writes lie in the range that another writes? This is `satisfies`
for texts. A text that writes no version lies in none, whatever the range. -/
def satisfies (version : String) (range : String) : Except Fault Bool := do
  match ← read? version with
  | none => return false
  | some v =>
    match Range.read? range.toList with
    | some r => r.holds v
    | none => .error (.unsupportedRange range)

/-! ## Versions that may be anything -/

/-- The version that a value writes: `coerce_version` for anything. Only texts write one. -/
def ofValue? (v : Value) : Except Fault (Option Version) :=
  match v with
  | .scalar (.str s) => read? s
  | _ => .ok none

/-- As `satisfies`, for values. The range is only looked at once there is a version. -/
def satisfiesValue (version range : Value) : Except Fault Bool := do
  match ← ofValue? version with
  | none => return false
  | some v =>
    match range with
    | .scalar (.str r) =>
      match Range.read? r.toList with
      | some known => known.holds v
      | none => .error (.unsupportedRange r)
    | _ => .error .wrongType

end Version

end ApiOutline
