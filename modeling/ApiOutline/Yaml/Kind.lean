/-
What a node is.

A node is of a kind, which is said by its tag or, where there is none, follows from how it is
written. Plain texts of certain forms are numbers, truth values, dates and so on; the forms are
regular patterns. Everything else that is written plainly is a text.
-/
import ApiOutline.Text.Pattern

set_option autoImplicit false

namespace ApiOutline.Yaml

inductive Kind where
  | null
  | bool
  | int
  | float
  | text
  | octets
  | time
  /-- The key under which mappings are merged into another. -/
  | merge
  /-- The key of a default value. -/
  | default
  | list
  | mapping
  | set
  | orderedMapping
  | pairs
  | unknown (tag : String)
  deriving DecidableEq, Repr

namespace Kind

/-- What the tags of the common kinds begin with. -/
def commonLead : String := "tag:yaml.org,2002:"

/-- The common kinds and how their tags end. -/
def commonTags : List (String × Kind) :=
  [("null", .null), ("bool", .bool), ("int", .int), ("float", .float), ("str", .text),
    ("binary", .octets), ("timestamp", .time), ("merge", .merge), ("value", .default),
    ("seq", .list), ("map", .mapping), ("set", .set), ("omap", .orderedMapping),
    ("pairs", .pairs)]

/-- The kind that a tag names. -/
def ofTag (tag : String) : Kind :=
  match commonTags.find? fun (name, _) => commonLead ++ name == tag with
  | some (_, kind) => kind
  | none => .unknown tag

/-! ## Forms of plain texts -/

open Text Pattern

def signs : Pattern := optional (oneOf "+-")

/-- Digits between which underscores may stand. -/
def spacedDigits : Pattern := .many (oneOf "0123456789_")

/-- Minutes or seconds behind a colon. -/
def sixtieths : Pattern :=
  repeated (chain [oneOf ":", optional (oneOf "012345"), digit])

/-- Integers: binary, octal, decimal, hexadecimal, or in base sixty. -/
def intForm : Pattern :=
  .seq signs (anyOf [
    chain [word "0b", repeated (oneOf "01_")],
    chain [word "0", repeated (oneOf "01234567_")],
    word "0",
    chain [oneOf "123456789", spacedDigits],
    chain [word "0x", repeated (oneOf "0123456789abcdefABCDEF_")],
    chain [oneOf "123456789", spacedDigits, sixtieths]])

/-- An exponent, whose sign is required. -/
def exponentForm : Pattern :=
  optional (chain [oneOf "eE", oneOf "+-", repeated digit])

/-- Numbers with a point, in base ten or sixty, and words for infinity and for no number. -/
def floatForm : Pattern :=
  anyOf [
    chain [signs, digit, spacedDigits, word ".", spacedDigits, exponentForm],
    chain [word ".", digit, spacedDigits, exponentForm],
    chain [signs, digit, spacedDigits, sixtieths, word ".", spacedDigits],
    chain [signs, word ".", anyOf [word "inf", word "Inf", word "INF"]],
    chain [word ".", anyOf [word "nan", word "NaN", word "NAN"]]]

def twoDigits : Pattern := .seq digit digit

def oneOrTwoDigits : Pattern := .seq digit (optional digit)

def fourDigits : Pattern := .seq twoDigits twoDigits

def blanks : Pattern := .many (oneOf " \t")

/-- A time of day, behind what separates it from the day, with or without an offset. -/
def clockForm : Pattern :=
  chain [.either (oneOf "Tt") (repeated (oneOf " \t")),
    oneOrTwoDigits, word ":", twoDigits, word ":", twoDigits,
    optional (.seq (word ".") (.many digit)),
    optional (.seq blanks (.either (word "Z")
      (chain [oneOf "+-", oneOrTwoDigits, optional (.seq (word ":") twoDigits)])))]

def looseDayForm : Pattern :=
  chain [fourDigits, word "-", oneOrTwoDigits, word "-", oneOrTwoDigits]

/-- A day in full, or a day and a time. -/
def timeForm : Pattern :=
  .either (chain [fourDigits, word "-", twoDigits, word "-", twoDigits])
    (.seq looseDayForm clockForm)

/-- The words that are truth values, each in three spellings. -/
def boolWords : List String :=
  ["yes", "Yes", "YES", "no", "No", "NO", "true", "True", "TRUE", "false", "False", "FALSE",
    "on", "On", "ON", "off", "Off", "OFF"]

def nullWords : List String := ["", "~", "null", "Null", "NULL"]

/-- Characters that a number or a date can begin with. -/
def beginsNumber (s : String) : Bool :=
  match s.toList with
  | [] => false
  | c :: _ => "+-.0123456789".toList.contains c

/-- A text without a line feed at its end, unless it is nothing else. -/
def withoutLastBreak (s : String) : String :=
  match s.toList.reverse with
  | '\n' :: c :: cs => String.ofList (c :: cs).reverse
  | _ => s

/-- The kind of a plain text without a tag. A line feed at its end does not count. -/
def ofPlain (s : String) : Kind :=
  let s := withoutLastBreak s
  if boolWords.contains s then .bool
  else if nullWords.contains s then .null
  else if s == "<<" then .merge
  else if s == "=" then .default
  else if beginsNumber s then
    if floatForm.accepts s.toList then .float
    else if intForm.accepts s.toList then .int
    else if timeForm.accepts s.toList then .time
    else .text
  else .text

end Kind

end ApiOutline.Yaml
