/-
Quoted texts.

A text between single quotes stands for itself, except that two quotes stand for one. Between
double quotes a backslash begins an escape. In both, a line may be broken: blanks around the break
are dropped, a single break becomes a space and further ones stay.
-/
import ApiOutline.Yaml.Defect
import ApiOutline.Text.Numeral

set_option autoImplicit false

namespace ApiOutline.Yaml

/-- The two kinds of quotes. -/
inductive Quote where
  | single
  | double
  deriving DecidableEq, Repr

def Quote.char : Quote → Char
  | .single => '\x27'
  | .double => '\x22'

/-- The character of a one-letter escape. -/
def escaped? : Char → Option Char
  | '0' => some '\x00'
  | 'a' => some '\x07'
  | 'b' => some '\x08'
  | 't' => some '\t'
  | '\t' => some '\t'
  | 'n' => some '\n'
  | 'v' => some '\x0b'
  | 'f' => some '\x0c'
  | 'r' => some '\r'
  | 'e' => some '\x1b'
  | ' ' => some ' '
  | '\x22' => some '\x22'
  | '\\' => some '\\'
  | '/' => some '/'
  | 'N' => some '\x85'
  | '_' => some '\xa0'
  | 'L' => some '\u2028'
  | 'P' => some '\u2029'
  | _ => none

/-- How many hexadecimal digits follow the letter of an escape by number. -/
def codeLength? : Char → Option Nat
  | 'x' => some 2
  | 'u' => some 4
  | 'U' => some 8
  | _ => none

/-- The character with a given number. A surrogate is none and gives the character for what
cannot be read. -/
def charOfCode (code : Nat) : Char :=
  if code < 0x110000 ∧ ¬ (0xD800 ≤ code ∧ code < 0xE000) then Char.ofNat code
  else Char.ofNat 0xFFFD

/-- The escape behind a backslash, unless it is a broken line. -/
def readEscape (cs : List Spot) : Reading (Char × List Spot) :=
  match escaped? (front cs) with
  | some c => .ok (c, cs.drop 1)
  | none =>
    match codeLength? (front cs) with
    | none => failAt .badEscape cs
    | some n =>
      let digits := ((cs.drop 1).take n).map Spot.char
      match Text.numeral? 16 digits with
      | none => failAt .badEscape cs
      | some code =>
        if digits.length < n then failAt .badEscape cs
        else if 0x110000 ≤ code then failAt (.noSuchCharacter code) cs
        else .ok (charOfCode code, cs.drop (n + 1))

/-- The breaks of the lines that follow, blanks around them left out. -/
def readBreaks : (fuel : Nat) → List Char → List Spot → Reading (List Char × List Spot)
  | 0, _, cs => failAt .unterminatedText cs
  | fuel + 1, done, cs =>
    if atDocumentMark cs then failAt .markInText cs
    else
      let rest := skip isBlank cs
      match lineBreak? rest with
      | some (c, rest) => readBreaks fuel (c :: done) rest
      | none => .ok (done.reverse, rest)

/-- What a break and the breaks behind it stand for. -/
def foldedBreak (first : Char) (others : List Char) : List Char :=
  if first != '\n' then first :: others
  else if others.isEmpty then [' ']
  else others

/-- The characters up to the closing quote; `done` are those before them, last one first. -/
def readQuotedFrom (quote : Quote) :
    (fuel : Nat) → List Char → List Spot → Reading (String × List Spot)
  | 0, _, cs => failAt .unterminatedText cs
  | fuel + 1, done, cs =>
    let c := front cs
    let rest := cs.drop 1
    if isEnd c then failAt .unterminatedText cs
    else if c == quote.char then
      if quote == .single && front rest == quote.char then
        readQuotedFrom quote fuel (c :: done) (rest.drop 1)
      else .ok (String.ofList done.reverse, rest)
    else if endsToken c then do
      let behind := skip isBlank cs
      match lineBreak? behind with
      | some (first, behind) =>
        let (others, behind) ← readBreaks (behind.length + 1) [] behind
        readQuotedFrom quote fuel ((foldedBreak first others).reverse ++ done) behind
      | none => readQuotedFrom quote fuel ((leading isBlank cs).reverse ++ done) behind
    else if quote == .double && c == '\\' then
      match lineBreak? rest with
      | some (_, behind) => do
        let (others, behind) ← readBreaks (behind.length + 1) [] behind
        readQuotedFrom quote fuel (others.reverse ++ done) behind
      | none => do
        let (e, behind) ← readEscape rest
        readQuotedFrom quote fuel (e :: done) behind
    else readQuotedFrom quote fuel (c :: done) rest

/-- The text between quotes, from the opening one on. -/
def readQuoted (quote : Quote) (cs : List Spot) : Reading (String × List Spot) :=
  readQuotedFrom quote cs.length [] (cs.drop 1)

end ApiOutline.Yaml
