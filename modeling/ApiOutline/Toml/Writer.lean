/-
Writing TOML.

Entries that are no tables come first, one on a line, and what is null is left out. Lists of tables
follow, then the tables themselves, level by level, each under a header with the names that lead
to it.
-/
import ApiOutline.Toml.Key
import ApiOutline.Value.Access

set_option autoImplicit false

namespace ApiOutline.Toml

open Value (Entries)

/-- Exponents are written without zeros in front. -/
def numberText (x : Binary64) : String :=
  let cs := (Binary64.layout.text x).toList
  let mantissa := cs.takeWhile (· != 'e')
  match cs.dropWhile (· != 'e') with
  | 'e' :: sign :: '0' :: rest => String.ofList (mantissa ++ 'e' :: sign :: rest)
  | _ => String.ofList cs

/-- A value without parts. Null is written only in lists, as a text. -/
def scalarText : Scalar → String
  | .null => "\"None\""
  | .bool b => if b then "true" else "false"
  | .int n => integerText n
  | .float x => numberText x
  | .str s => quoted s
  | .bytes octets => quoted (Text.quotedOctets octets)
  | .date d => d.text
  | .moment m => m.zuluText

mutual

/-- A value on one line. A table in a list gives the list of its names. -/
def valueText : Value → String
  | .scalar s => scalarText s
  | .list items => "[" ++ itemTexts items ++ "]"
  | .tuple items => "[" ++ itemTexts items ++ "]"
  | .set members => "[" ++ String.join (members.map fun m => " " ++ scalarText m ++ ",") ++ "]"
  | .again _ => "[]"
  | .object entries => "[" ++ nameTexts entries ++ "]"

def itemTexts : List Value → String
  | [] => ""
  | v :: rest => " " ++ valueText v ++ "," ++ itemTexts rest

def nameTexts : List (Scalar × Value) → String
  | [] => ""
  | (k, _) :: rest => " " ++ quoted k.text ++ "," ++ nameTexts rest

end

/-- A name in front of an equals sign or in a header: in quotes where it has to be. -/
def nameText (k : Scalar) : String :=
  let name := k.text
  if name != "" && name.toList.all isNameChar then name else quoted name

def isTable : Value → Bool
  | .object _ => true
  | _ => false

/-- Is a value written below a header of its own? -/
def needsHeader : Value → Bool
  | .object _ => true
  | .list items => items.any isTable
  | _ => false

/-- The entries that are written on a line each. -/
def lineTexts : List (Scalar × Value) → String
  | [] => ""
  | (k, v) :: rest =>
    (if v.isNull || needsHeader v then "" else nameText k ++ " = " ++ valueText v ++ "\n") ++
      lineTexts rest

/-! ## Headers -/

/-- A table below its header. -/
structure Section where
  path : String
  text : String
  /-- Are there tables in it? -/
  hasInner : Bool

/-- The names on the way to a table, with points between. -/
def innerPath (path : String) (k : Scalar) : String :=
  if path == "" then nameText k else path ++ "." ++ nameText k

/-- Two lists of levels, level by level. -/
def mergeLevels {α : Type} : List (List α) → List (List α) → List (List α)
  | [], ys => ys
  | xs, [] => xs
  | x :: xs, y :: ys => (x ++ y) :: mergeLevels xs ys

/-- A section below its header, if there is anything in it. -/
def Section.block (s : Section) : String :=
  if s.text == "" then "" else "[" ++ s.path ++ "]\n" ++ s.text

mutual

/-- The lists of tables among some entries. -/
def listTexts (path : String) : List (Scalar × Value) → String
  | [] => ""
  | (k, .list items) :: rest =>
    (if items.any isTable then tableTexts (innerPath path k) items else "") ++ listTexts path rest
  | (_, .scalar _) :: rest | (_, .tuple _) :: rest | (_, .set _) :: rest | (_, .object _) :: rest
  | (_, .again _) :: rest => listTexts path rest

/-- The tables of a list, each below a header of two brackets. -/
def tableTexts (path : String) : List Value → String
  | [] => ""
  | .object es :: rest =>
    let text := lineTexts es ++ listTexts path es
    "[[" ++ path ++ "]]\n" ++
      (if text.toList.head? == some '[' then "\n" ++ text else text ++ "\n") ++
      String.join ((sections path es).flatten.map Section.block) ++ tableTexts path rest
  | .scalar _ :: rest | .list _ :: rest | .tuple _ :: rest | .set _ :: rest | .again _ :: rest =>
    tableTexts path rest

/-- The tables among some entries and in them, by levels. -/
def sections (path : String) : List (Scalar × Value) → List (List Section)
  | [] => []
  | (k, .object es) :: rest =>
    let here := innerPath path k
    let inner := sections here es
    let text := lineTexts es ++ listTexts here es
    mergeLevels ([⟨here, text, !inner.isEmpty⟩] :: inner) (sections path rest)
  | (_, .scalar _) :: rest | (_, .list _) :: rest | (_, .tuple _) :: rest | (_, .set _) :: rest
  | (_, .again _) :: rest => sections path rest

end

/-- A text with a section behind it, after an empty line. A section with nothing but tables in it
needs no header. -/
def addSection (text : String) (s : Section) : String :=
  if s.text == "" && s.hasInner then text
  else
    let gap := if text == "" || Text.endsWith ['\n', '\n'] text.toList then "" else "\n"
    text ++ gap ++ "[" ++ s.path ++ "]\n" ++ s.text

/-- A table as a document. -/
def text (entries : Entries) : String :=
  (sections "" entries).flatten.foldl addSection (lineTexts entries ++ listTexts "" entries)

end ApiOutline.Toml
