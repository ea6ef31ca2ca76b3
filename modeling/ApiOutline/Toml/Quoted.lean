/-
Quoted texts.

Between double quotes a backslash begins an escape; between single quotes every character stands
for itself. Three quotes at either end make a long text, which may go over several lines: empty
lines in front are left out, and a backslash at the end of a line joins it with the next one that
is not blank. Writing uses double quotes and one line, and what it writes is read back unchanged.

There are texts that the `toml` library changes or refuses when it writes them, those with
characters that it would write by a number of two digits. The writing here is that of the texts
which the library reads back unchanged, and no account of what it makes of the others.
-/
import ApiOutline.Text.Blank
import ApiOutline.Text.Cut
import ApiOutline.Text.Numeral
import ApiOutline.Value.Text

set_option autoImplicit false

namespace ApiOutline.Toml

/-- The two kinds of quotes. -/
inductive Quote where
  | single
  | double
  deriving DecidableEq, Repr

def Quote.char : Quote → Char
  | .single => '\x27'
  | .double => '\x22'

/-- The kind of a quote. -/
def quote? (c : Char) : Option Quote :=
  if c == Quote.single.char then some .single
  else if c == Quote.double.char then some .double
  else none

/-! ## Escapes -/

/-- The character of a one-letter escape. -/
def escaped? : Char → Option Char
  | '0' => some '\x00'
  | 'b' => some '\x08'
  | 'f' => some '\x0c'
  | 'n' => some '\n'
  | 'r' => some '\r'
  | 't' => some '\t'
  | '\x22' => some '\x22'
  | '\\' => some '\\'
  | _ => none

/-- The character with a given number. Surrogates and numbers beyond the last character have
none. -/
def charOfCode? (code : Nat) : Option Char :=
  if h : code.isValidChar then some (Char.ofNatAux code h) else none

/-- The character that hexadecimal digits give the number of. -/
def charOfDigits? (digits : List Char) : Option Char :=
  (Text.numeral? 16 digits).bind charOfCode?

/-- The characters that are meant by what stands between double quotes. -/
def unescape : List Char → Option (List Char)
  | [] => some []
  | '\\' :: 'u' :: a :: b :: c :: d :: rest => do
    let x ← charOfDigits? [a, b, c, d]
    (unescape rest).map (x :: ·)
  | '\\' :: 'U' :: a :: b :: c :: d :: e :: f :: g :: h :: rest => do
    let x ← charOfDigits? [a, b, c, d, e, f, g, h]
    (unescape rest).map (x :: ·)
  | '\\' :: c :: rest => do
    let x ← escaped? c
    (unescape rest).map (x :: ·)
  | '\\' :: [] => none
  | c :: rest => (unescape rest).map (c :: ·)

/-- The characters that are meant by a quoted name, in which escapes by number stay as they
are. -/
def unescapeName : List Char → Option (List Char)
  | [] => some []
  | '\\' :: 'u' :: rest => (unescapeName rest).map ('\\' :: 'u' :: ·)
  | '\\' :: 'U' :: rest => (unescapeName rest).map ('\\' :: 'U' :: ·)
  | '\\' :: c :: rest => do
    let x ← escaped? c
    (unescapeName rest).map (x :: ·)
  | ['\\'] => some ['\\']
  | c :: rest => (unescapeName rest).map (c :: ·)

/-! ## Reading -/

/-- What stands in front of a closing mark, as it is written, and what stands behind that mark.
A quote behind a backslash closes nothing where backslashes begin escapes, and a short text has
to be closed on its line. -/
def upTo (quote : Quote) (mark : List Char) (long : Bool) :
    List Char → Option (List Char × List Char)
  | [] => none
  | c :: rest =>
    match Text.after? mark (c :: rest) with
    | some behind => some ([], behind)
    | none =>
      if c == '\n' && !long then none
      else
        match quote, c, rest with
        | .double, '\\', e :: rest =>
          if e == '\n' && !long then none
          else (upTo quote mark long rest).map fun (s, behind) => (c :: e :: s, behind)
        | _, _, rest => (upTo quote mark long rest).map fun (s, behind) => (c :: s, behind)

/-- Does a line end with a backslash that no other one escapes? -/
def endsInBackslash (line : List Char) : Bool :=
  (line.reverse.takeWhile (· == '\\')).length % 2 == 1

/-- A line of a long text behind the lines in `done`. `joining` tells that the line before it asked
to be joined. As long as the text has had no break, blanks at both ends of its lines are dropped. -/
def joinLine (done : List Char) (joining : Bool) (line : List Char) : List Char × Bool :=
  let line := if joining || !done.contains '\n' then Text.strip Text.isBlank line else line
  if line.isEmpty && joining then (done, true)
  else if endsInBackslash line then (done ++ line.dropLast, true)
  else (done ++ line ++ ['\n'], false)

/-- The lines of a long text behind its first one, the last of them as it is. -/
def joinLines (done : List Char) (joining : Bool) : List (List Char) → List Char
  | [] => done
  | [last] =>
    done ++ if joining || !done.contains '\n' then last.dropWhile Text.isBlank else last
  | line :: rest =>
    let (done, joining) := joinLine done joining line
    joinLines done joining rest

/-- A long text as one text with escapes. -/
def unfold (written : List Char) : List Char :=
  match Text.splitAt '\n' (written.dropWhile (· == '\n')) with
  | first :: second :: rest =>
    let first := Text.dropEnd Text.isBlank first
    if endsInBackslash first then joinLines first.dropLast true (second :: rest)
    else joinLines (first ++ ['\n']) false (second :: rest)
  | _ => written.dropWhile (· == '\n')

/-- What stands between quotes, as a text. -/
def meaning (quote : Quote) (written : List Char) : Option String :=
  match quote with
  | .single => some (String.ofList written)
  | .double => (unescape written).map String.ofList

/-- The text between quotes, from the opening one on, and what stands behind the closing one. -/
def readText (quote : Quote) (cs : List Char) : Option (String × List Char) := do
  let mark := List.replicate 3 quote.char
  match Text.after? mark cs with
  | some inside =>
    let (written, behind) ← upTo quote mark true inside
    return (← meaning quote (unfold written), behind)
  | none =>
    let (written, behind) ← upTo quote [quote.char] false (cs.drop 1)
    return (← meaning quote written, behind)

/-! ## Writing -/

/-- One character between double quotes. What is not printable is written by its number, in four
digits or eight. The `toml` library does so for characters whose number needs more than two
digits. One with two digits, a control character or another one that is not printable below 256,
it writes without its escape or refuses; texts that it does not write and read back unchanged are
outside of what this writing stands for. -/
def escapeChar (c : Char) : List Char :=
  if c = '\x22' then ['\\', '\x22']
  else if c = '\\' then ['\\', '\\']
  else if c = '\n' then ['\\', 'n']
  else if c = '\r' then ['\\', 'r']
  else if c = '\t' then ['\\', 't']
  else if Text.isPrintable c then [c]
  else if c.toNat < 0x10000 then '\\' :: 'u' :: (Text.hexText 4 c.toNat).toList
  else '\\' :: 'U' :: (Text.hexText 8 c.toNat).toList

/-- A text in double quotes. It stands for the writing of the `toml` library where that reads its
own writing back unchanged, and is not meant for other texts. -/
def quoted (s : String) : String :=
  String.ofList (['\x22'] ++ s.toList.flatMap escapeChar ++ ['\x22'])

end ApiOutline.Toml
