/-
Characters in their places.

In YAML it matters where something is written: how far a line is indented, whether two things are
on one line, how far apart they are. So a text is first laid out, every character with its index,
line and column, and everything after that reads laid-out characters and never counts again. The
end of a text is a place too; it holds a zero character, which no text contains.
-/

set_option autoImplicit false

namespace ApiOutline.Yaml

/-- A line and a column, both counted from zero. -/
structure Place where
  line : Nat
  column : Nat
  deriving DecidableEq, Repr

/-- A character and where it stands. -/
structure Spot where
  char : Char
  index : Nat
  place : Place
  deriving DecidableEq, Repr

/-- The character at the end of every text. -/
def endMark : Char := '\x00'

/-! ## Kinds of characters -/

/-- Characters that end a line. -/
def isBreak (c : Char) : Bool :=
  c == '\n' || c == '\r' || c == '\x85' || c == '\u2028' || c == '\u2029'

def isEnd (c : Char) : Bool := c == endMark

/-- The end of a line or of the text. -/
def isLineEnd (c : Char) : Bool := isBreak c || isEnd c

def isSpace (c : Char) : Bool := c == ' '

def isBlank (c : Char) : Bool := c == ' ' || c == '\t'

/-- A space or the end of a line. -/
def endsWord (c : Char) : Bool := isSpace c || isLineEnd c

/-- A blank or the end of a line. -/
def endsToken (c : Char) : Bool := isBlank c || isLineEnd c

/-- Characters of names: ASCII letters and digits, hyphens and underscores. -/
def isNameChar (c : Char) : Bool :=
  c.isAlphanum || c == '-' || c == '_'

/-- Characters that a document may contain. -/
def isAllowed (c : Char) : Bool :=
  let n := c.toNat
  c == '\t' || c == '\n' || c == '\r' || (0x20 ≤ n && n ≤ 0x7E) || n == 0x85 ||
    (0xA0 ≤ n && n ≤ 0xD7FF) || (0xE000 ≤ n && n ≤ 0xFFFD) || (0x10000 ≤ n && n ≤ 0x10FFFF)

/-- The mark that some editors put at the front of a text. It takes up no column. -/
def isOrderMark (c : Char) : Bool := c == '\uFEFF'

/-! ## Laying out -/

/-- Where the next character stands. A carriage return in front of a line feed does not yet end
the line. -/
def Place.next (p : Place) (c : Char) (rest : List Char) : Place :=
  if isBreak c && !(c == '\r' && rest.head? == some '\n') then ⟨p.line + 1, 0⟩
  else if isOrderMark c then p
  else ⟨p.line, p.column + 1⟩

/-- Characters from an index and a place on, and the end behind them. -/
def layOutFrom (index : Nat) (p : Place) : List Char → List Spot
  | [] => [⟨endMark, index, p⟩]
  | c :: rest => ⟨c, index, p⟩ :: layOutFrom (index + 1) (p.next c rest) rest

/-- A text in its places. -/
def layOut (text : List Char) : List Spot :=
  layOutFrom 0 ⟨0, 0⟩ text

/-! ## Looking ahead -/

/-- The character at the front; at the end it is the end mark. -/
def front : List Spot → Char
  | [] => endMark
  | s :: _ => s.char

/-- The character some way behind the front. -/
def ahead (n : Nat) (cs : List Spot) : Char := front (cs.drop n)

/-- Where the front is. -/
def here : List Spot → Place
  | [] => ⟨0, 0⟩
  | s :: _ => s.place

/-- The index of the front. -/
def indexHere : List Spot → Nat
  | [] => 0
  | s :: _ => s.index

/-- The characters at the front that satisfy `p`. -/
def leading (p : Char → Bool) (cs : List Spot) : List Char :=
  (cs.takeWhile fun s => p s.char).map Spot.char

/-- What stands behind the characters at the front that satisfy `p`. -/
def skip (p : Char → Bool) (cs : List Spot) : List Spot :=
  cs.dropWhile fun s => p s.char

/-- The end of a line, and what stands behind it. Two of the five marks are kept, the others
become a line feed. -/
def lineBreak? : List Spot → Option (Char × List Spot)
  | [] => none
  | s :: rest =>
    if s.char == '\r' && front rest == '\n' then some ('\n', rest.drop 1)
    else if s.char == '\n' || s.char == '\r' || s.char == '\x85' then some ('\n', rest)
    else if isBreak s.char then some (s.char, rest)
    else none

/-- Behind a comment, if there is one. -/
def skipComment (cs : List Spot) : List Spot :=
  if front cs == '#' then skip (fun c => !isLineEnd c) cs else cs

/-- Three equal characters and something that ends a token. -/
def marksDocument (c : Char) (cs : List Spot) : Bool :=
  front cs == c && ahead 1 cs == c && ahead 2 cs == c && endsToken (ahead 3 cs)

/-- Does a document begin or end here? -/
def atDocumentMark (cs : List Spot) : Bool :=
  marksDocument '-' cs || marksDocument '.' cs

end ApiOutline.Yaml
