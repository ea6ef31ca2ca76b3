/-
From characters to tokens.

Only the reader of tokens looks at indentation, so that nothing behind it has to. It keeps three
things in mind. The columns at which the open block lists and mappings are indented: a line that
begins to the left of one closes it. How deep it is inside brackets, where indentation means
nothing. And, for every depth, where something began that will turn out to be a key if a colon
follows: such a thing has to stand on one line and be no longer than 1024 characters, and where
the line begins at the column of the innermost mapping nothing but a key may stand.
-/
import ApiOutline.Yaml.Scalar.Block
import ApiOutline.Yaml.Scalar.Plain
import ApiOutline.Yaml.Token.Label

set_option autoImplicit false

namespace ApiOutline.Yaml

/-- Something that may turn out to be a key. -/
structure Candidate where
  /-- How many tokens stand in front of it. -/
  before : Nat
  /-- Is nothing else possible there? -/
  needed : Bool
  index : Nat
  place : Place
  deriving Repr

/-- What the reader has in mind. -/
structure Lexer where
  rest : List Spot
  /-- The tokens so far, last one first, and their number. -/
  tokens : List Placed
  count : Nat
  /-- The column of the innermost block, and those of the blocks around it. -/
  indent : Int
  indents : List Int
  /-- May a key begin here? -/
  keyAllowed : Bool
  /-- The candidates at each depth of brackets, innermost first. -/
  candidates : List (Option Candidate)

namespace Lexer

def start (text : List Char) : Lexer where
  rest := layOut text
  tokens := []
  count := 0
  indent := -1
  indents := []
  keyAllowed := true
  candidates := [none]

/-- Is this inside brackets? -/
def inFlow (s : Lexer) : Bool :=
  s.candidates.length > 1

def column (s : Lexer) : Nat := (here s.rest).column

/-- With one more token. -/
def push (s : Lexer) (t : Token) : Lexer :=
  { s with tokens := ⟨t, here s.rest⟩ :: s.tokens, count := s.count + 1 }

/-- With a token that stands at the front, and what follows it. -/
def emit (s : Lexer) (t : Token) (rest : List Spot) : Lexer :=
  { s.push t with rest }

/-- With a token behind the first `before` ones. -/
def insert (s : Lexer) (before : Nat) (t : Placed) : Lexer :=
  let later := s.count - before
  { s with
    tokens := s.tokens.take later ++ t :: s.tokens.drop later
    count := s.count + 1 }

/-! ## Candidates for keys -/

def candidate (s : Lexer) : Option Candidate := (s.candidates.head?).join

def setCandidate (s : Lexer) (c : Option Candidate) : Lexer :=
  { s with candidates := c :: s.candidates.drop 1 }

/-- Too far away to become a key? -/
def isStale (s : Lexer) (c : Candidate) : Bool :=
  c.place.line != (here s.rest).line || indexHere s.rest - c.index > 1024

/-- Without the candidates that are too far away. -/
def dropStale (s : Lexer) : Reading Lexer :=
  let stale (c? : Option Candidate) : Bool := c?.any s.isStale
  if s.candidates.any fun c? => stale c? && c?.any Candidate.needed then
    failAt .unfinishedKey s.rest
  else .ok { s with candidates := s.candidates.map fun c? => if stale c? then none else c? }

/-- Without the candidate at this depth. -/
def dropCandidate (s : Lexer) : Reading Lexer :=
  if s.candidate.any Candidate.needed then failAt .unfinishedKey s.rest
  else .ok (s.setCandidate none)

/-- What begins here may turn out to be a key, if one is allowed. -/
def markCandidate (s : Lexer) : Reading Lexer :=
  if s.keyAllowed then do
    let s ← s.dropCandidate
    let c : Candidate :=
      { before := s.count
        needed := !s.inFlow && s.indent == (s.column : Int)
        index := indexHere s.rest
        place := here s.rest }
    return s.setCandidate (some c)
  else .ok s

/-! ## Indentation -/

/-- The ends of the blocks that are indented further than `column`; inside brackets there are
none. -/
def closeBlocks (column : Int) (s : Lexer) : Lexer :=
  if s.inFlow then s else go s.indents s
where
  go : List Int → Lexer → Lexer
    | [], s => s
    | outer :: others, s =>
      if s.indent > column then
        go others { s.push .blockEnd with indent := outer, indents := others }
      else s

/-- Is something at this column indented further than the innermost block? -/
def opensBlock (s : Lexer) (column : Nat) : Bool :=
  s.indent < (column : Int)

/-- A new innermost block. -/
def openBlock (s : Lexer) (column : Nat) : Lexer :=
  { s with indent := column, indents := s.indent :: s.indents }

/-! ## What stands between tokens -/

/-- Behind spaces, comments and ends of lines. Outside brackets a key may begin in a new line. -/
def skipBetween : (fuel : Nat) → Lexer → Lexer
  | 0, s => s
  | fuel + 1, s =>
    let rest := skipComment (skip isSpace s.rest)
    match lineBreak? rest with
    | some (_, rest) =>
      skipBetween fuel { s with rest, keyAllowed := s.keyAllowed || !s.inFlow }
    | none => { s with rest }

/-- The mark for the order of octets may stand in front of everything. -/
def skipOrderMark (s : Lexer) : Lexer :=
  if indexHere s.rest == 0 && isOrderMark (front s.rest) then { s with rest := s.rest.drop 1 }
  else s

/-! ## Single tokens -/

def readEnd (s : Lexer) : Reading Lexer := do
  let s ← (s.closeBlocks (-1)).dropCandidate
  return s.push .textEnd

def readDirectiveLine (s : Lexer) : Reading Lexer := do
  let s ← (s.closeBlocks (-1)).dropCandidate
  let (d, rest) ← readDirective s.rest
  let rest ← skipLine .badDirective rest
  return { s.emit (.directive d) rest with keyAllowed := false }

def readDocumentMark (s : Lexer) (t : Token) : Reading Lexer := do
  let s ← (s.closeBlocks (-1)).dropCandidate
  return { s.emit t (s.rest.drop 3) with keyAllowed := false }

def openBracket (s : Lexer) (t : Token) : Reading Lexer := do
  let s ← s.markCandidate
  return { s.emit t (s.rest.drop 1) with
    candidates := none :: s.candidates
    keyAllowed := true }

/-- A closing bracket has to have an opening one. -/
def closeBracket (s : Lexer) (t : Token) : Reading Lexer := do
  if s.inFlow then
    let s ← s.dropCandidate
    return { s.emit t (s.rest.drop 1) with
      candidates := s.candidates.drop 1
      keyAllowed := false }
  else failAt .unopenedBracket s.rest

def readComma (s : Lexer) : Reading Lexer := do
  let s ← s.dropCandidate
  return { s.emit .flowEntry (s.rest.drop 1) with keyAllowed := true }

/-- With the beginning of a block at the front, if what stands there opens one. -/
def beginBlock (s : Lexer) (t : Token) : Lexer :=
  if !s.inFlow && s.opensBlock s.column then (s.openBlock s.column).push t else s

def readHyphen (s : Lexer) : Reading Lexer := do
  if !s.inFlow && !s.keyAllowed then failAt .misplacedItem s.rest
  let s ← (s.beginBlock .blockListStart).dropCandidate
  return { s.emit .blockEntry (s.rest.drop 1) with keyAllowed := true }

def readQuestionMark (s : Lexer) : Reading Lexer := do
  if !s.inFlow && !s.keyAllowed then failAt .misplacedKey s.rest
  let s ← (s.beginBlock .blockMappingStart).dropCandidate
  return { s.emit .key (s.rest.drop 1) with keyAllowed := !s.inFlow }

/-- A colon makes a key of what began earlier at this depth. Without that it ends a key that was
announced by a question mark. -/
def readColon (s : Lexer) : Reading Lexer := do
  match s.candidate with
  | some c =>
    let s := (s.setCandidate none).insert c.before ⟨.key, c.place⟩
    let s :=
      if !s.inFlow && s.opensBlock c.place.column then
        (s.openBlock c.place.column).insert c.before ⟨.blockMappingStart, c.place⟩
      else s
    return { s.emit .value (s.rest.drop 1) with keyAllowed := false }
  | none =>
    if !s.inFlow && !s.keyAllowed then failAt .misplacedValue s.rest
    let s ← (s.beginBlock .blockMappingStart).dropCandidate
    return { s.emit .value (s.rest.drop 1) with keyAllowed := !s.inFlow }

/-- A reference, an anchor, a tag or a quoted text: it may begin a key, and no other may follow. -/
def readNodePart (s : Lexer) (reader : List Spot → Reading (Token × List Spot)) :
    Reading Lexer := do
  let s ← s.markCandidate
  let (t, rest) ← reader s.rest
  return { s.emit t rest with keyAllowed := false }

def readPlainText (s : Lexer) : Reading Lexer := do
  let s ← s.markCandidate
  let p := readPlain s.inFlow s.indent s.rest
  return { s.emit (.scalar p.text true) p.rest with keyAllowed := p.broken }

def readBlockText (s : Lexer) (folded : Bool) : Reading Lexer := do
  let s ← s.dropCandidate
  let (text, rest) ← readBlock folded s.indent s.rest
  return { s.emit (.scalar text false) rest with keyAllowed := true }

def readQuotedText (quote : Quote) (cs : List Spot) : Reading (Token × List Spot) := do
  let (text, rest) ← readQuoted quote cs
  return (.scalar text false, rest)

def readAnchor (cs : List Spot) : Reading (Token × List Spot) := do
  let (name, rest) ← readName (cs.drop 1)
  return (.anchor name, rest)

def readReference (cs : List Spot) : Reading (Token × List Spot) := do
  let (name, rest) ← readName (cs.drop 1)
  return (.reference name, rest)

/-! ## All tokens -/

/-- Does a sign that needs a blank behind it outside brackets stand at the front? -/
def atIndicator (s : Lexer) (c : Char) : Bool :=
  front s.rest == c && (s.inFlow || endsToken (ahead 1 s.rest))

/-- The next token, which begins at the front. -/
def readToken (s : Lexer) : Reading Lexer :=
  let cs := s.rest
  let c := front cs
  let atLineStart := s.column == 0
  if isEnd c then s.readEnd
  else if atLineStart && c == '%' then s.readDirectiveLine
  else if atLineStart && marksDocument '-' cs then s.readDocumentMark .documentStart
  else if atLineStart && marksDocument '.' cs then s.readDocumentMark .documentEnd
  else if c == '[' then s.openBracket .flowListStart
  else if c == '\x7b' then s.openBracket .flowMappingStart
  else if c == ']' then s.closeBracket .flowListEnd
  else if c == '\x7d' then s.closeBracket .flowMappingEnd
  else if c == ',' then s.readComma
  else if c == '-' && endsToken (ahead 1 cs) then s.readHyphen
  else if s.atIndicator '?' then s.readQuestionMark
  else if s.atIndicator ':' then s.readColon
  else if c == '*' then s.readNodePart readReference
  else if c == '&' then s.readNodePart readAnchor
  else if c == '!' then s.readNodePart readTag
  else if c == '|' && !s.inFlow then s.readBlockText false
  else if c == '>' && !s.inFlow then s.readBlockText true
  else if c == Quote.single.char then s.readNodePart (readQuotedText .single)
  else if c == Quote.double.char then s.readNodePart (readQuotedText .double)
  else if beginsPlain s.inFlow cs then s.readPlainText
  else failAt .strayCharacter cs

/-- Up to and including the next token. -/
def next (s : Lexer) : Reading Lexer := do
  let s := s.skipOrderMark
  let s ← (s.skipBetween (s.rest.length + 1)).dropStale
  (s.closeBlocks s.column).readToken

/-- The tokens in front of the first one that may still turn out to be a key. -/
def settled (s : Lexer) : List Placed :=
  let open? (c? : Option Candidate) : Option Nat :=
    (c?.filter fun c => !s.isStale c).map Candidate.before
  s.tokens.reverse.take ((s.candidates.filterMap open?).foldl min s.count)

/-- Up to the end of the text, or up to a defect. Every token but the last is at least one
character long, so that the length of the text is fuel enough. -/
def run : (fuel : Nat) → Lexer → List Placed × Option Malformed
  | 0, s => (s.settled, some ⟨.strayCharacter, some (here s.rest)⟩)
  | fuel + 1, s =>
    match s.next with
    | .error m => (s.settled, some m)
    | .ok s =>
      match s.tokens with
      | ⟨.textEnd, _⟩ :: _ => (s.tokens.reverse, none)
      | _ => run fuel s

end Lexer

/-- The tokens of a text, as far as they can be told, and what is wrong behind them. -/
structure Scanned where
  tokens : List Placed
  defect : Option Malformed

/-- The tokens of a text, all of whose characters have to be allowed. -/
def Token.scan (text : List Char) : Reading Scanned := do
  if let some s := (layOut text).find? fun s => !isAllowed s.char && !isEnd s.char then
    failAt .forbiddenCharacter [s]
  if text.contains endMark then failAt .forbiddenCharacter (layOut text)
  let (tokens, defect) := (Lexer.start text).run (text.length + 2)
  return { tokens, defect }

end ApiOutline.Yaml
