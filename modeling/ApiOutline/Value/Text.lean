/-
The text of a value.

Titles, versions and names may come as numbers, dates or worse, and still have to be written. A
text stands for itself; every other value is written the way it would be typed: numbers in
decimal, lists in brackets, objects in braces, the texts inside them quoted.
-/
import ApiOutline.Text.Quoted
import ApiOutline.Value.Basic

set_option autoImplicit false

namespace ApiOutline

/-- Numbers are written with the fewest digits that read back: positionally from `0.0001` up to,
not including, ten to the sixteenth, and with a signed exponent of two digits or more beyond. A
whole number keeps `.0`, which tells it from an integer. -/
def Binary64.layout : Decimal.Layout where
  positionalFrom := -4
  positionalBelow := 16
  wholeSuffix := ".0"
  exponentWidth := 2
  notANumber := "nan"
  infinity := "inf"

/-- An integer in decimal. -/
def integerText (n : Int) : String :=
  (if n < 0 then "-" else "") ++ Decimal.digitText n.natAbs

/-- A day as it would be constructed. -/
def Date.literal (d : Date) : String :=
  "datetime.date(" ++ ", ".intercalate ([d.year, d.month, d.day].map Decimal.digitText) ++ ")"

/-- A number of seconds between two moments as it would be constructed. Days may be negative,
seconds not. -/
def Moment.distanceLiteral (seconds : Int) : String :=
  let days := seconds.fdiv 86400
  let rest := seconds.fmod 86400
  let parts :=
    (if days = 0 then [] else ["days=" ++ integerText days]) ++
      (if rest = 0 then [] else ["seconds=" ++ integerText rest])
  "datetime.timedelta(" ++ ", ".intercalate parts ++ ")"

/-- A distance from universal time as it would be constructed. -/
def Moment.offsetLiteral (seconds : Int) : String :=
  if seconds = 0 then "datetime.timezone.utc"
  else "datetime.timezone(" ++ distanceLiteral seconds ++ ")"

/-- A moment as it would be constructed. Seconds and their fraction are left out when zero. -/
def Moment.literal (m : Moment) : String :=
  let always := [m.date.year, m.date.month, m.date.day, m.hour, m.minute]
  let parts := always ++
    (if m.microsecond ≠ 0 then [m.second, m.microsecond]
      else if m.second ≠ 0 then [m.second] else [])
  let offset := match m.offset with
    | none => []
    | some o => ["tzinfo=" ++ Moment.offsetLiteral o]
  "datetime.datetime(" ++ ", ".intercalate (parts.map Decimal.digitText ++ offset) ++ ")"

/-- A scalar as it would be typed. -/
def Scalar.literal : Scalar → String
  | .null => "None"
  | .bool b => if b then "True" else "False"
  | .int n => integerText n
  | .float x => Binary64.layout.text x
  | .str s => Text.quoted s
  | .bytes bs => Text.quotedOctets bs
  | .date d => d.literal
  | .moment m => m.literal

namespace Value

mutual

/-- A value as it would be typed. A row of one has a comma behind it, an empty set is no object,
and what contains itself is written as dots where it is met again. -/
def literal : Value → String
  | .scalar s => s.literal
  | .list xs => "[" ++ ", ".intercalate (literals xs) ++ "]"
  | .tuple [x] => "(" ++ literal x ++ ",)"
  | .tuple xs => "(" ++ ", ".intercalate (literals xs) ++ ")"
  | .set [] => "set()"
  | .set ms => "\x7b" ++ ", ".intercalate (ms.map Scalar.literal) ++ "\x7d"
  | .again (.object _) => "\x7b...\x7d"
  | .again _ => "[...]"
  | .object es => "\x7b" ++ ", ".intercalate (entryLiterals es) ++ "\x7d"

def literals : List Value → List String
  | [] => []
  | v :: rest => literal v :: literals rest

def entryLiterals : List (Scalar × Value) → List String
  | [] => []
  | (k, v) :: rest => (k.literal ++ ": " ++ literal v) :: entryLiterals rest

end

end Value

/-- A scalar as a reader would see it: texts without quotes, days and moments in figures. -/
def Scalar.text : Scalar → String
  | .str s => s
  | .date d => d.text
  | .moment m => m.text " "
  | s => s.literal

/-- A value as a reader would see it. -/
def Value.text : Value → String
  | .scalar s => s.text
  | v => v.opened.literal

/-- The text of a value that may be missing. -/
def Value.text? : Value → Option String
  | .scalar .null => none
  | v => some v.text

end ApiOutline
