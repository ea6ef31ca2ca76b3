/-
Writing JSON.

The outline is written for people to read and to compare: two blanks for every level, one entry
or item to a line, nothing inside empty brackets. Characters of every script are written as they
are; only quotes, backslashes and control characters are escaped.
-/
import ApiOutline.Value.Text

set_option autoImplicit false

namespace ApiOutline.Json

/-- One character of a text between quotes. -/
def escapeChar (c : Char) : List Char :=
  if c = '"' then ['\\', '"']
  else if c = '\\' then ['\\', '\\']
  else if c = '\n' then ['\\', 'n']
  else if c = '\r' then ['\\', 'r']
  else if c = '\t' then ['\\', 't']
  else if c = '\x08' then ['\\', 'b']
  else if c = '\x0c' then ['\\', 'f']
  else if c.toNat < 0x20 then '\\' :: 'u' :: (Text.hexText 4 c.toNat).toList
  else [c]

/-- A text between quotes. -/
def textLiteral (s : String) : String :=
  String.ofList ('"' :: s.toList.flatMap escapeChar ++ ['"'])

/-- Numbers that JSON has no words for are written as words all the same. -/
def floatText (x : Binary64) : String :=
  match x with
  | .nan => "NaN"
  | .infinite negative => if negative then "-Infinity" else "Infinity"
  | x => Binary64.layout.text x

/-- A scalar. Those that JSON does not know are written as their texts. -/
def scalarText : Scalar → String
  | .null => "null"
  | .bool b => if b then "true" else "false"
  | .int n => integerText n
  | .float x => floatText x
  | .str s => textLiteral s
  | s => textLiteral s.text

/-- A key, which is always a text. -/
def keyText : Scalar → String
  | .str s => textLiteral s
  | s => textLiteral (scalarText s)

/-- A line feed and the blanks of a level. -/
def newLine (level : Nat) : String :=
  String.ofList ('\n' :: List.replicate (2 * level) ' ')

mutual

/-- A value whose parts stand on the level below `level`. -/
def render (level : Nat) : Value → String
  | .scalar s => scalarText s
  | .again _ => "null"
  | .set [] => "[]"
  | .set (m :: ms) =>
    "[" ++ ",".intercalate ((m :: ms).map fun m => newLine (level + 1) ++ scalarText m) ++
      newLine level ++ "]"
  | .tuple [] => "[]"
  | .tuple (x :: xs) =>
    "[" ++ ",".intercalate (renderItems (level + 1) (x :: xs)) ++ newLine level ++ "]"
  | .list [] => "[]"
  | .list (x :: xs) =>
    "[" ++ ",".intercalate (renderItems (level + 1) (x :: xs)) ++ newLine level ++ "]"
  | .object [] => "\x7b\x7d"
  | .object (e :: es) =>
    "\x7b" ++ ",".intercalate (renderEntries (level + 1) (e :: es)) ++ newLine level ++ "\x7d"

def renderItems (level : Nat) : List Value → List String
  | [] => []
  | v :: rest => (newLine level ++ render level v) :: renderItems level rest

def renderEntries (level : Nat) : List (Scalar × Value) → List String
  | [] => []
  | (k, v) :: rest =>
    (newLine level ++ keyText k ++ ": " ++ render level v) :: renderEntries level rest

end

/-- A value as a text of its own. -/
def text (v : Value) : String :=
  render 0 v

end ApiOutline.Json
