/-
The values of scalar nodes.

A node whose kind says that it is a number, a date or octets has to be written like one. Where the
kind follows from the writing this is nearly always so; where it was given by a tag anything can
be written there, and a day can be well written and not exist.
-/
import ApiOutline.Value.Basic
import ApiOutline.Decimal.Written
import ApiOutline.Text.Letter
import ApiOutline.Yaml.Defect
import ApiOutline.Yaml.Kind
import ApiOutline.Fault

set_option autoImplicit false

namespace ApiOutline.Yaml

/-- Why a text has no value. -/
inductive Failure where
  /-- It is no YAML. -/
  | malformed (m : Malformed)
  | notAnInteger (base : Nat) (text : String)
  | notANumber (text : String)
  | tooManyDigits (count : Nat)
  | noSuchTime (reason : String)
  /-- A truth value that is neither. -/
  | unknownWord (text : String)
  /-- A date or time that is not written like one. -/
  | notATime
  /-- A date or time that is no text. -/
  | timeInParts
  /-- A number without any digit. -/
  | emptyNumber
  /-- A number with more parts in base sixty than a float can hold. -/
  | tooManySixties
  /-- A text that is given by a node inside itself. -/
  | endless
  deriving DecidableEq, Repr

def Failure.ofDefect (d : Defect) : Failure := .malformed ⟨d, none⟩

def Failure.message : Failure → String
  | .malformed ⟨.noSuchCharacter _, _⟩ => "chr() arg not in range(0x110000)"
  | .malformed ⟨.tooManyDigits count, _⟩ => (Fault.tooManyDigits count).message
  | .malformed m => m.message
  | .notAnInteger base text =>
    "invalid literal for int() with base " ++ Decimal.digitText base ++ ": " ++
      String.ofList ((Text.quoted text).toList.take 200)
  | .notANumber text => "could not convert string to float: " ++ Text.quoted text
  | .tooManyDigits count => (Fault.tooManyDigits count).message
  | .noSuchTime reason => reason
  | .unknownWord text => Text.quoted text
  | .notATime | .timeInParts | .emptyNumber | .tooManySixties | .endless => ""

/-! ## Numbers -/

def withoutUnderscores (s : String) : List Char := s.toList.filter (· != '_')

/-- An integer in a given base. Only in base ten is the number of digits limited. -/
def integerOf (base : Nat) (cs : List Char) : Except Failure Int :=
  let count := (cs.filter fun c => (Text.decimalValue? c).isSome).length
  if base = 10 ∧ Fault.digitLimit < count then .error (.tooManyDigits count)
  else
    match Decimal.integer? base cs with
    | some n => .ok n
    | none => .error (.notAnInteger base (String.ofList cs))

/-- Parts between colons, each worth sixty of the next. -/
def inSixties (parts : List Int) : Int :=
  parts.foldl (fun n d => n * 60 + d) 0

def magnitudeOf (cs : List Char) : Except Failure Int :=
  match cs with
  | ['0'] => .ok 0
  | '0' :: 'b' :: digits => integerOf 2 digits
  | '0' :: 'x' :: digits => integerOf 16 digits
  | '0' :: _ => integerOf 8 cs
  | [] => .error .emptyNumber
  | _ =>
    if cs.contains ':' then
      ((Text.splitAt ':' cs).mapM (integerOf 10)).map inSixties
    else integerOf 10 cs

def intOf (s : String) : Except Failure Int :=
  match withoutUnderscores s with
  | [] => .error .emptyNumber
  | cs =>
    let (negative, cs) := Decimal.sign cs
    (magnitudeOf cs).map fun n => if negative then -n else n

def numberOf (cs : List Char) : Except Failure Binary64 :=
  match Decimal.number? cs with
  | some x => .ok x
  | none => .error (.notANumber (String.ofList cs))

/-- Parts between colons, the last one first, summed up from the smallest; `worth` is what the
next part counts, which has to be finite. -/
def sumSixties (sum : Binary64) (worth : Int) : List Binary64 → Except Failure Binary64
  | [] => .ok sum
  | d :: rest =>
    if (Binary64.ofInt worth).isFinite then
      sumSixties (sum.add (d.mul (.ofInt worth))) (worth * 60) rest
    else .error .tooManySixties

def floatOf (s : String) : Except Failure Binary64 :=
  match (withoutUnderscores s).map Char.toLower with
  | [] => .error .emptyNumber
  | cs =>
    let (negative, cs) := Decimal.sign cs
    let magnitude : Except Failure Binary64 :=
      if cs == ".inf".toList then .ok (.infinite false)
      else if cs == ".nan".toList then .ok .nan
      else if cs.contains ':' then
        ((Text.splitAt ':' cs).mapM numberOf).bind fun parts =>
          sumSixties (.zero false) 1 parts.reverse
      else numberOf cs
    magnitude.map fun x => if negative then x.neg else x

/-! ## Days and times -/

/-- The digits at the front, and what stands behind them. -/
def takeNumber (cs : List Char) : Nat × List Char :=
  (Text.digitsNumber (cs.takeWhile Text.isDigit), cs.dropWhile Text.isDigit)

/-- Six digits of a fraction; what is missing is zero, what is too much is dropped. -/
def microseconds (ds : List Char) : Nat :=
  Text.digitsNumber ((ds ++ List.replicate 6 '0').take 6)

/-- The distance from universal time in seconds, from its sign on. -/
def offsetOf (cs : List Char) : Int :=
  let (negative, cs) := Decimal.sign cs
  let (hours, cs) := takeNumber cs
  let (minutes, _) := takeNumber (cs.drop 1)
  let seconds : Int := hours * 3600 + minutes * 60
  if negative then -seconds else seconds

def checkDate (d : Date) : Except Failure Date :=
  if d.year < 1 then .error (.noSuchTime "year 0 is out of range")
  else if d.month < 1 ∨ 12 < d.month then .error (.noSuchTime "month must be in 1..12")
  else if d.exists? then .ok d
  else .error (.noSuchTime "day is out of range for month")

def checkMoment (m : Moment) : Except Failure Moment := do
  if let some o := m.offset then
    if o ≤ -86400 ∨ 86400 ≤ o then
      .error (.noSuchTime ("offset must be a timedelta strictly between " ++
        "-timedelta(hours=24) and timedelta(hours=24), not " ++ Moment.distanceLiteral o ++ "."))
  let _ ← checkDate m.date
  if 24 ≤ m.hour then .error (.noSuchTime "hour must be in 0..23")
  if 60 ≤ m.minute then .error (.noSuchTime "minute must be in 0..59")
  if 60 ≤ m.second then .error (.noSuchTime "second must be in 0..59")
  return m

/-- A time of day, from the hours on. -/
def momentOf (date : Date) (cs : List Char) : Moment :=
  let (hour, cs) := takeNumber cs
  let (minute, cs) := takeNumber (cs.drop 1)
  let (second, cs) := takeNumber (cs.drop 1)
  let (fraction, cs) : List Char × List Char :=
    match cs with
    | '.' :: cs => (cs.takeWhile Text.isDigit, cs.dropWhile Text.isDigit)
    | cs => ([], cs)
  let zone := cs.dropWhile isBlank
  let offset : Option Int :=
    match zone with
    | [] => none
    | 'Z' :: _ => some 0
    | zone => some (offsetOf zone)
  { date, hour, minute, second, microsecond := microseconds fraction, offset }

/-- The form of a day, perhaps with a time. -/
def looseTimeForm : Text.Pattern :=
  .seq Kind.looseDayForm (.optional Kind.clockForm)

def timeOf (s : String) : Except Failure Scalar :=
  let cs := (Kind.withoutLastBreak s).toList
  if looseTimeForm.accepts cs then
    let (year, cs) := takeNumber cs
    let (month, cs) := takeNumber (cs.drop 1)
    let (day, cs) := takeNumber (cs.drop 1)
    let date : Date := { year, month, day }
    match cs with
    | [] => (checkDate date).map .date
    | _ =>
      let clock := cs.dropWhile fun c => !Text.isDigit c
      (checkMoment (momentOf date clock)).map .moment
  else .error .notATime

/-! ## Octets -/

/-- What a character of the base-64 alphabet stands for. -/
def sextet? (c : Char) : Option Nat :=
  let n := c.toNat
  if 'A' ≤ c ∧ c ≤ 'Z' then some (n - 'A'.toNat)
  else if 'a' ≤ c ∧ c ≤ 'z' then some (n - 'a'.toNat + 26)
  else if Text.isDigit c then some (n - '0'.toNat + 52)
  else if c = '+' then some 62
  else if c = '/' then some 63
  else none

/-- Octets from base 64: every four characters write three. `place` is how many of four have been
read, `left` the bits not yet written, and `pads` counts the equals signs behind them. Two or
three characters need as many signs as are missing, and one is too few; other characters are
passed over. -/
def octetsFrom (place left pads : Nat) (done : List UInt8) : List Char → Option (List UInt8)
  | [] => if place = 0 then some done.reverse else none
  | c :: rest =>
    if c = '=' then
      if 2 ≤ place ∧ 4 ≤ place + pads + 1 then some done.reverse
      else octetsFrom place left (if 2 ≤ place then pads + 1 else pads) done rest
    else
      match sextet? c with
      | none => octetsFrom place left pads done rest
      | some n =>
        match place with
        | 0 => octetsFrom 1 n 0 done rest
        | 1 => octetsFrom 2 (n % 16) 0 (UInt8.ofNat (left * 4 + n / 16) :: done) rest
        | 2 => octetsFrom 3 (n % 4) 0 (UInt8.ofNat (left * 16 + n / 4) :: done) rest
        | _ => octetsFrom 0 0 0 (UInt8.ofNat (left * 64 + n) :: done) rest

def octetsOf (s : String) : Except Failure (List UInt8) :=
  match s.toList.all (fun c => c.toNat < 0x80), octetsFrom 0 0 0 [] s.toList with
  | true, some octets => .ok octets
  | _, _ => .error (.ofDefect .badOctets)

/-! ## Scalars -/

/-- The truth value that a word is, in whatever case. -/
def boolOf (s : String) : Except Failure Bool :=
  match Text.lower s with
  | "yes" | "true" | "on" => .ok true
  | "no" | "false" | "off" => .ok false
  | word => .error (.unknownWord word)

/-- The value of a scalar node. -/
def scalarOf (kind : Kind) (s : String) : Except Failure Scalar :=
  match kind with
  | .null => .ok .null
  | .bool => (boolOf s).map .bool
  | .int => (intOf s).map .int
  | .float => (floatOf s).map .float
  | .text => .ok (.str s)
  | .octets => (octetsOf s).map .bytes
  | .time => timeOf s
  | .merge | .default | .unknown _ => .error (.ofDefect .unknownTag)
  | .list | .mapping | .set | .orderedMapping | .pairs => .error (.ofDefect .wrongKind)

end ApiOutline.Yaml
