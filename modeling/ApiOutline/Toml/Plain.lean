/-
Values without quotes and brackets.

The words for true and false, numbers, days and moments stand for themselves. A number may have
underscores between its digits and a letter that announces its base; a day is told from a number
by a hyphen that is not its sign, and is then read by position alone.
-/
import ApiOutline.Decimal.Written
import ApiOutline.Text.Pattern
import ApiOutline.Value.Basic

set_option autoImplicit false

namespace ApiOutline.Toml

/-- The kinds of values. The items of an array are of one kind. -/
inductive Kind where
  | truth
  | text
  | integer
  | fraction
  | day
  | clock
  | array
  | table
  deriving DecidableEq, Repr

/-! ## Days and moments -/

/-- The number at some positions of a text. -/
def numberAt (cs : List Char) (start stop : Nat) : Option Nat :=
  match Decimal.integer? 10 ((cs.take stop).drop start) with
  | some (.ofNat n) => some n
  | _ => none

/-- The distance from universal time in seconds: a sign, hours, any character and minutes. -/
def offset? (cs : List Char) : Option Int :=
  if cs == ['Z'] then some 0
  else do
    let hours ← Decimal.integer? 10 ((cs.take 3).drop 1)
    let minutes ← Decimal.integer? 10 ((cs.take 6).drop 4)
    let seconds := (hours * 60 + minutes) * 60
    return if cs.head? == some '-' then -seconds else seconds

/-- A fraction of a second in microseconds. Further digits are cut off. -/
def microseconds? (digits : List Char) : Option Nat :=
  (numberAt digits 0 digits.length).map fun n =>
    n * Nat.pow 10 (6 - digits.length) / Nat.pow 10 (digits.length - 6)

/-- The digits behind a point, and the offset behind them, if there is one. -/
def fractionAndOffset (cs : List Char) : List Char × Option (List Char) :=
  match cs.getLast? with
  | some 'Z' => (cs.dropLast, some ['Z'])
  | some 'z' => (cs.dropLast, some ['Z'])
  | _ =>
    let mark := if cs.contains '+' then '+' else '-'
    match cs.dropWhile (· != mark) with
    | [] => (cs, none)
    | offset => (cs.takeWhile (· != mark), some offset)

/-- What stands behind the seconds of a moment. What cannot be read there counts as not written. -/
def fineTime (cs : List Char) : Nat × Option Int :=
  match cs with
  | '.' :: rest =>
    let (digits, offset) := fractionAndOffset rest
    match microseconds? digits, offset.map offset? with
    | some n, none => (n, none)
    | some n, some (some o) => (n, some o)
    | _, _ => (0, none)
  | _ => (0, offset? cs)

/-- A day, or a day with a time. -/
def day? (cs : List Char) : Option Value := do
  guard ((cs.drop 1).contains '-')
  let date : Date := ⟨← numberAt cs 0 4, ← numberAt cs 5 7, ← numberAt cs 8 10⟩
  if cs.length = 10 then
    if date.exists? then some (.date date) else none
  else
    let (microsecond, offset) := fineTime (cs.drop 19)
    let moment : Moment := {
      date := date
      hour := ← numberAt cs 11 13
      minute := ← numberAt cs 14 16
      second := ← numberAt cs 17 19
      microsecond := microsecond
      offset := offset }
    if moment.exists? then some (.moment moment) else none

/-- A time of no particular day. -/
def clock : Text.Pattern :=
  let two := .seq .digit .digit
  let colon := Text.Pattern.word ":"
  .chain [two, colon, two, colon, two,
    .optional (.chain [.word ".", .digit, .digit, .digit, .optional (.seq .digit
      (.optional (.seq .digit (.optional .digit))))])]

/-! ## Numbers -/

/-- Are zeros and underscores where a number has them? Underscores stand between digits, and a
number does not begin with a zero, unless a point or the letter of a base follows. -/
def wellFormed (cs : List Char) : Bool :=
  let unsignedForm (body : List Char) : Bool :=
    match body with
    | '0' :: c :: _ => c == '.'
    | _ => true
  match cs with
  | [] => false
  | ['_'] => false
  | [_] => true
  | '0' :: c :: _ =>
    (c == '.' || c == 'o' || c == 'b' || c == 'x') && cs.getLast? != some '_' && scores cs
  | c :: rest =>
    c != '_' && cs.getLast? != some '_' && scores cs &&
      (if c == '+' || c == '-' then unsignedForm rest else true)
where
  /-- No underscore stands beside another one or beside a point. -/
  scores (cs : List Char) : Bool :=
    !Text.occursIn ['_', '_'] cs && !Text.occursIn ['_', '.'] cs && !Text.occursIn ['.', '_'] cs

/-- The base that a letter behind a zero announces. -/
def baseOf? (c : Char) : Option Nat :=
  match c.toLower with
  | 'b' => some 2
  | 'o' => some 8
  | 'x' => some 16
  | _ => none

/-- A whole number whose base is announced, or a decimal one without zeros in front. -/
def integer? (cs : List Char) : Option Int :=
  let (negative, digits) := Decimal.sign (Decimal.trimmed cs)
  let n? : Option Nat :=
    match digits with
    | '0' :: c :: rest =>
      match baseOf? c with
      | some base => Text.numeral? base rest
      | none => if (c :: rest).all (· == '0') then some 0 else none
    | _ => Text.numeral? 10 digits
  n?.map fun n => if negative then -(n : Int) else n

/-- Is a number written with a point or an exponent? -/
def isFractional (cs : List Char) : Bool :=
  cs.contains '.' || (!cs.contains 'x' && (cs.contains 'e' || cs.contains 'E'))

/-- Digits are required in front of a point and something behind it. -/
def hasDigitsAround (cs : List Char) : Bool :=
  (match cs.dropWhile (· != '.') with
    | ['.'] => false
    | _ => true) &&
  (match cs with
    | c :: _ => Text.isDigit c
    | [] => false)

/-- Zero less a number; there is no negative zero. -/
def negate (x : Binary64) : Binary64 :=
  if x.isZero then .zero false else x.neg

/-- A number. -/
def number? (cs : List Char) : Option (Kind × Value) :=
  let (negative, body) := Decimal.sign cs
  let body := body.filter (· != '_')
  let small := String.ofList (body.map Char.toLower)
  let fraction (x : Binary64) := (Kind.fraction, Value.float (if negative then negate x else x))
  if isFractional body then
    if hasDigitsAround body then (Decimal.number? body).map fraction else none
  else if small == "inf" || small == "nan" then (Decimal.number? body).map fraction
  else (integer? body).map fun n => (.integer, .int (if negative then -n else n))

/-! ## All of them -/

/-- The value of a text without quotes. `checked` tells whether the form of numbers matters. -/
def plain? (checked : Bool) (cs : List Char) : Option (Kind × Value) :=
  let small := String.ofList (cs.map Char.toLower)
  if cs == "true".toList then some (.truth, .bool true)
  else if cs == "false".toList then some (.truth, .bool false)
  else if small == "true" || small == "false" then none
  else if clock.accepts cs then some (.clock, .str (String.ofList cs))
  else
    match day? cs with
    | some v => some (.day, v)
    | none => if checked && !wellFormed cs then none else number? cs

/-- Can a value stand right behind an equals sign? Words, days and times can, and numbers in
decimal. -/
def standsTight (cs : List Char) : Bool :=
  let scoreless := if (cs.head?).any Text.isDigit then cs.filter (· != '_') else cs
  let trimmed := Text.strip Text.isBlank cs
  trimmed == "true".toList || trimmed == "false".toList ||
    (Decimal.number? scoreless).isSome || (day? scoreless).isSome || clock.accepts scoreless

end ApiOutline.Toml
