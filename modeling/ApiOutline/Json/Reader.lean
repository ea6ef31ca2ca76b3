/-
Reading JSON.

The reader works on the characters that are left. A failure names what was wrong and hands back
what was left where it was noticed; how far into the text that is, by line and column, is counted
once, at the end. Three things go beyond the standard: `NaN`, `Infinity` and `-Infinity` are
numbers, a number without fraction and exponent is an integer of any size up to the digit limit,
and of two entries under one key the later one counts, in the place of the earlier. How deep
values may stand inside each other has a limit.
-/
import ApiOutline.Fault
import ApiOutline.Text.Cut
import ApiOutline.Text.Numeral

set_option autoImplicit false

namespace ApiOutline.Json

open Text (isDigit digitsNumber numeral?)

/-- What the reader missed or met. -/
inductive Defect where
  | expectedName
  | expectedColon
  | expectedComma
  | expectedValue
  | extraData
  | controlCharacter
  | unterminatedText
  | badEscape
  | badCodeEscape
  /-- An integer with more digits than are read. -/
  | tooManyDigits (count : Nat)
  /-- A value that stands inside too many others. -/
  | tooDeep
  deriving DecidableEq, Repr

def Defect.text : Defect → String
  | .expectedName => "Expecting property name enclosed in double quotes"
  | .expectedColon => "Expecting ':' delimiter"
  | .expectedComma => "Expecting ',' delimiter"
  | .expectedValue => "Expecting value"
  | .extraData => "Extra data"
  | .controlCharacter => "Invalid control character at"
  | .unterminatedText => "Unterminated string starting at"
  | .badEscape => "Invalid \\escape"
  | .badCodeEscape => "Invalid \\uXXXX escape"
  | .tooManyDigits count => (Fault.tooManyDigits count).message
  | .tooDeep => "Too many values inside each other"

/-- A defect and what was left of the text where it was noticed. -/
structure Stop where
  defect : Defect
  rest : List Char

/-- A part of the text as a value, and what is left behind it. -/
abbrev Read (α : Type) := Except Stop (α × List Char)

def isSpace (c : Char) : Bool :=
  c == ' ' || c == '\t' || c == '\n' || c == '\r'

def skipSpace (cs : List Char) : List Char :=
  cs.dropWhile isSpace

/-! ## Texts -/

def isHighSurrogate (n : Nat) : Bool := 0xD800 ≤ n && n < 0xDC00

def isLowSurrogate (n : Nat) : Bool := 0xDC00 ≤ n && n < 0xE000

/-- The character of a code unit. A surrogate that stands alone is none and gives the character
for what cannot be read. -/
def charOfUnit (n : Nat) : Char :=
  if isHighSurrogate n || isLowSurrogate n then Char.ofNat 0xFFFD else Char.ofNat n

/-- The character of two surrogates. -/
def charOfPair (high low : Nat) : Char :=
  Char.ofNat (0x10000 + (high - 0xD800) * 0x400 + (low - 0xDC00))

/-- The character of a one-letter escape. -/
def escaped? : Char → Option Char
  | '"' => some '"'
  | '\\' => some '\\'
  | '/' => some '/'
  | 'b' => some '\x08'
  | 'f' => some '\x0c'
  | 'n' => some '\n'
  | 'r' => some '\r'
  | 't' => some '\t'
  | _ => none

/-- The characters up to the closing quote. `start` is what was left at the opening one, and
`done` holds the characters that have been read, last one first. An escape by code unit needs a
character behind it, since the closing quote at least is due. -/
def readText (start done : List Char) (cs : List Char) : Read String :=
  match cs with
  | [] => .error ⟨.unterminatedText, start⟩
  | '"' :: rest => .ok (String.ofList done.reverse, rest)
  | '\\' :: [] => .error ⟨.unterminatedText, start⟩
  | '\\' :: 'u' :: a :: b :: c :: d :: x :: rest =>
    match numeral? 16 [a, b, c, d] with
    | none => .error ⟨.badCodeEscape, cs.drop 1⟩
    | some n =>
      match _next : x :: rest with
      | '\\' :: 'u' :: e :: f :: g :: h :: y :: behind =>
        if isHighSurrogate n then
          match numeral? 16 [e, f, g, h] with
          | none => .error ⟨.badCodeEscape, cs.drop 7⟩
          | some m =>
            if isLowSurrogate m then readText start (charOfPair n m :: done) (y :: behind)
            else readText start (charOfUnit n :: done) (x :: rest)
        else readText start (charOfUnit n :: done) (x :: rest)
      | _ => readText start (charOfUnit n :: done) (x :: rest)
  | '\\' :: 'u' :: _ => .error ⟨.badCodeEscape, cs.drop 1⟩
  | '\\' :: c :: rest =>
    match escaped? c with
    | some e => readText start (e :: done) rest
    | none => .error ⟨.badEscape, cs⟩
  | c :: rest =>
    if c.toNat < 0x20 then .error ⟨.controlCharacter, cs⟩
    else readText start (c :: done) rest
termination_by cs.length
decreasing_by
  all_goals try have h := congrArg List.length _next
  all_goals simp only [List.length_cons] at *
  all_goals omega

/-! ## Numbers -/

/-- The digits in front of the point: a zero alone, or a run that begins with none. -/
def wholeDigits? : List Char → Option (List Char × List Char)
  | '0' :: rest => some (['0'], rest)
  | c :: rest =>
    if isDigit c then some ((c :: rest).takeWhile isDigit, rest.dropWhile isDigit) else none
  | [] => none

/-- A point and the digits behind it, if there are any. -/
def fraction? : List Char → Option (List Char × List Char)
  | '.' :: c :: rest =>
    if isDigit c then some ((c :: rest).takeWhile isDigit, rest.dropWhile isDigit) else none
  | _ => none

/-- An exponent, if it has a digit. -/
def exponent? : List Char → Option (Int × List Char)
  | e :: rest =>
    if e == 'e' || e == 'E' then
      let (negative, digits) : Bool × List Char :=
        match rest with
        | '-' :: r => (true, r)
        | '+' :: r => (false, r)
        | r => (false, r)
      match digits.takeWhile isDigit with
      | [] => none
      | ds =>
        let n : Int := digitsNumber ds
        some (if negative then -n else n, digits.dropWhile isDigit)
    else none
  | [] => none

/-- A number without its sign. -/
def readMagnitude (start : List Char) (negative : Bool) (cs : List Char) : Read Value :=
  match wholeDigits? cs with
  | none => .error ⟨.expectedValue, start⟩
  | some (whole, behind) =>
    let (fractional, rest) := match fraction? behind with
      | some (ds, rest) => (some ds, rest)
      | none => (none, behind)
    let (power, rest) := match exponent? rest with
      | some (e, rest) => (some e, rest)
      | none => (none, rest)
    match fractional, power with
    | none, none =>
      let n : Int := digitsNumber whole
      if whole.length ≤ Fault.digitLimit then .ok (.int (if negative then -n else n), rest)
      else .error ⟨.tooManyDigits whole.length, start⟩
    | _, _ =>
      let places := fractional.getD []
      let digits := digitsNumber (whole ++ places)
      .ok (.float (Binary64.ofDecimal negative digits (power.getD 0 - places.length)), rest)

/-- A number, or one of the words for numbers that are none. -/
def readNumber (cs : List Char) : Read Value :=
  match cs with
  | '-' :: rest =>
    match Text.after? "Infinity".toList rest with
    | some behind => .ok (.float (.infinite true), behind)
    | none => readMagnitude cs true rest
  | _ => readMagnitude cs false cs

/-! ## Values -/

/-- The words that are values. -/
def wordValues : List (List Char × Value) :=
  [("null".toList, .null), ("true".toList, .bool true), ("false".toList, .bool false),
    ("NaN".toList, .float .nan), ("Infinity".toList, .float (.infinite false))]

def readWord (cs : List Char) : Option (Value × List Char) :=
  wordValues.findSome? fun (word, v) => (Text.after? word cs).map fun rest => (v, rest)

/-- How many values may stand inside each other. -/
def depthLimit : Nat := 990

mutual

/-- A value at the front of the text, in which `room` more may stand inside each other. Every value
is at least one character long, so that the length of the text is fuel enough. -/
def readValue : (fuel room : Nat) → List Char → Read Value
  | 0, _, cs => .error ⟨.expectedValue, cs⟩
  | fuel + 1, room, cs =>
    match cs with
    | '"' :: rest => (readText cs [] rest).map fun (s, rest) => (.str s, rest)
    | '{' :: rest =>
      if room = 0 then .error ⟨.tooDeep, cs⟩
      else
        match skipSpace rest with
        | '}' :: behind => .ok (.object [], behind)
        | inside =>
          (readEntries fuel (room - 1) [] inside).map fun (es, rest) => (.object es, rest)
    | '[' :: rest =>
      if room = 0 then .error ⟨.tooDeep, cs⟩
      else
        match skipSpace rest with
        | ']' :: behind => .ok (.list [], behind)
        | inside => (readItems fuel (room - 1) [] inside).map fun (xs, rest) => (.list xs, rest)
    | _ =>
      match readWord cs with
      | some found => .ok found
      | none => readNumber cs

/-- Entries up to the closing brace; `done` are those before them. -/
def readEntries : (fuel room : Nat) → List (Scalar × Value) → List Char →
    Except Stop (List (Scalar × Value) × List Char)
  | 0, _, _, cs => .error ⟨.expectedName, cs⟩
  | fuel + 1, room, done, cs =>
    match cs with
    | '"' :: rest => do
      let (name, rest) ← readText cs [] rest
      match skipSpace rest with
      | ':' :: rest =>
        let (v, rest) ← readValue fuel room (skipSpace rest)
        let done := Value.put (.str name) v done
        match skipSpace rest with
        | '}' :: rest => .ok (done, rest)
        | ',' :: rest => readEntries fuel room done (skipSpace rest)
        | rest => .error ⟨.expectedComma, rest⟩
      | rest => .error ⟨.expectedColon, rest⟩
    | _ => .error ⟨.expectedName, cs⟩

/-- Items up to the closing bracket; `done` are those before them, last one first. -/
def readItems : (fuel room : Nat) → List Value → List Char →
    Except Stop (List Value × List Char)
  | 0, _, _, cs => .error ⟨.expectedValue, cs⟩
  | fuel + 1, room, done, cs => do
    let (v, rest) ← readValue fuel room cs
    match skipSpace rest with
    | ']' :: rest => .ok ((v :: done).reverse, rest)
    | ',' :: rest => readItems fuel room (v :: done) (skipSpace rest)
    | rest => .error ⟨.expectedComma, rest⟩

end

/-! ## Whole texts -/

/-- Why a text is no JSON, and where: line and column from one, characters from zero. -/
structure Malformed where
  defect : Defect
  line : Nat
  column : Nat
  offset : Nat
  deriving DecidableEq, Repr

/-- Where a stop is in the text that was read. -/
def Stop.locate (s : Stop) (text : List Char) : Malformed :=
  let offset := text.length - s.rest.length
  let before := text.take offset
  { defect := s.defect
    line := before.count '\n' + 1
    column := (before.reverse.takeWhile (· != '\n')).length + 1
    offset := offset }

def Malformed.message (m : Malformed) : String :=
  match m.defect with
  | .tooManyDigits _ => m.defect.text
  | d => d.text ++ ": line " ++ Decimal.digitText m.line ++ " column " ++
      Decimal.digitText m.column ++ " (char " ++ Decimal.digitText m.offset ++ ")"

/-- The value that a whole text writes. -/
def parse (text : String) : Except Malformed Value :=
  let cs := text.toList
  let result : Except Stop Value := do
    let (v, rest) ← readValue (cs.length + 1) depthLimit (skipSpace cs)
    match skipSpace rest with
    | [] => .ok v
    | rest => .error ⟨.extraData, rest⟩
  result.mapError fun s => s.locate cs

end ApiOutline.Json
