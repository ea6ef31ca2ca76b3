/-
Reading TOML.

A document is read line by line: a header, an entry, a comment or nothing. Only what stands in
square brackets and long texts go over several lines. Why a text is no TOML is not told, because
nobody asks for more than the fact.
-/
import ApiOutline.Toml.Key
import ApiOutline.Toml.Plain
import ApiOutline.Toml.Table

set_option autoImplicit false

namespace ApiOutline.Toml

open Value (Entries)

/-! ## Gaps -/

/-- What stands behind blanks. Where `lines` holds, breaks and comments are passed over, too. -/
def skipGap (lines inComment : Bool) : List Char → List Char
  | [] => []
  | c :: rest =>
    if c == '\n' then if lines then skipGap lines false rest else c :: rest
    else if inComment then skipGap lines true rest
    else if c == '#' && lines then skipGap lines true rest
    else if Text.isBlank c then skipGap lines false rest
    else c :: rest

/-- The next line, if nothing but a comment is left of this one. -/
def nextLine? (cs : List Char) : Option (List Char) :=
  match skipGap false false cs with
  | [] => some []
  | '\n' :: rest => some rest
  | '#' :: rest => some ((rest.dropWhile (· != '\n')).drop 1)
  | _ => none

/-! ## Values -/

/-- Where a value stands. -/
inductive Site where
  | line
  | array
  | table
  deriving DecidableEq, Repr

/-- Does a character end a value without quotes and brackets? -/
def Site.ends (site : Site) (c : Char) : Bool :=
  c == '\n' || c == '#' ||
    match site with
    | .line => false
    | .array => c == ',' || c == ']'
    | .table => c == ',' || c == '\x7d'

/-- A value without quotes and brackets. In braces it has to begin with a digit or a minus, words
apart, and in an array the form of numbers does not matter. -/
def readPlain (site : Site) (cs : List Char) : Option ((Kind × Value) × List Char) := do
  let written := Text.strip Text.isBlank (cs.takeWhile fun c => !site.ends c)
  let (kind, v) ← plain? (site != .array) written
  if site == .table && kind != .truth &&
      !(written.head?).any (fun c => Text.isDigit c || c == '-') then none
  else some ((kind, v), cs.dropWhile fun c => !site.ends c)

/-- May what stands right behind an equals sign be a value? Behind a blank anything may, and so
may quotes and brackets. -/
def mayFollow (site : Site) (cs : List Char) : Bool :=
  match cs.head? with
  | none => true
  | some c =>
    c == ' ' || c == '\t' || (quote? c).isSome || c == '[' || c == '\x7b' ||
      standsTight (Text.dropEnd Text.isBlank (cs.takeWhile fun c => !site.ends c))

mutual

/-- A value at the front of the text. `lines` tells whether there are brackets around it, so that
it may go over several lines. Every value is at least one character long, so that the length of
the text is fuel enough. -/
def readValue : (fuel : Nat) → (lines : Bool) → Site → List Char →
    Option ((Kind × Value) × List Char)
  | 0, _, _, _ => none
  | fuel + 1, lines, site, cs =>
    match cs with
    | [] => none
    | '[' :: rest => do
      let (items, rest) ← readItems fuel none [] rest
      return ((.array, .list items), rest)
    | '{' :: rest =>
      match skipGap lines false rest with
      | '}' :: rest => some ((.table, .object []), rest)
      | inside => do
        let (entries, rest) ← readEntries fuel lines [] inside
        return ((.table, .object entries), rest)
    | c :: _ =>
      match quote? c with
      | some quote => (readText quote cs).map fun (s, rest) => ((.text, .str s), rest)
      | none => readPlain site cs

/-- Items up to the closing bracket; `done` are those before them, last one first, and `kind` is
theirs. Commas without an item are passed over. -/
def readItems : (fuel : Nat) → Option Kind → List Value → List Char →
    Option (List Value × List Char)
  | 0, _, _, _ => none
  | fuel + 1, kind, done, cs =>
    match skipGap true false cs with
    | ']' :: rest => some (done.reverse, rest)
    | ',' :: rest => readItems fuel kind done rest
    | inside => do
      let ((itemKind, v), rest) ← readValue fuel true .array inside
      guard (kind.all (· == itemKind))
      match skipGap true false rest with
      | ',' :: rest => readItems fuel (some itemKind) (v :: done) rest
      | ']' :: rest => some ((v :: done).reverse, rest)
      | _ => none

/-- Entries up to the closing brace; `done` are those before them. -/
def readEntries : (fuel : Nat) → (lines : Bool) → Entries → List Char →
    Option (Entries × List Char)
  | 0, _, _, _ => none
  | fuel + 1, lines, done, cs => do
    let (key, rest) ← readInnerKey none cs
    let names ← keyNames key
    guard (mayFollow .table rest)
    let ((_, v), rest) ← readValue fuel lines .table (skipGap lines false rest)
    let done ← Draft.assign v names done
    match skipGap lines false rest with
    | ',' :: rest => readEntries fuel lines done (skipGap lines false rest)
    | '}' :: rest => some (done, rest)
    | _ => none

end

/-! ## Lines -/

/-- An entry, and the lines behind it. -/
def readEntry (d : Draft) (cs : List Char) : Option (Draft × List Char) := do
  let (key, rest) ← readKey cs
  let names ← keyNames key
  guard (mayFollow .line rest)
  let ((_, v), rest) ← readValue (rest.length + 1) false .line (skipGap false false rest)
  let d ← d.put names v
  return (d, ← nextLine? rest)

/-- A header behind its opening bracket, and the lines behind it. A second bracket opens a further
table in a list. -/
def readHeader (d : Draft) (cs : List Char) : Option (Draft × List Char) := do
  let (many, inside) := match cs with
    | '[' :: rest => (true, rest)
    | _ => (false, cs)
  let (names, rest) ← readNames (inside.length + 1) inside
  let rest ← Text.after? (if many then [']', ']'] else [']']) rest
  let d ← d.openTable many names
  return (d, ← nextLine? rest)

/-- All lines. Each is at least one character long, so that the length of the text is fuel
enough. -/
def readLines : (fuel : Nat) → Draft → List Char → Option Draft
  | 0, _, _ => none
  | fuel + 1, d, cs =>
    match cs.dropWhile fun c => c == ' ' || c == '\t' with
    | [] => some d
    | '\n' :: rest => readLines fuel d rest
    | '#' :: rest => readLines fuel d ((rest.dropWhile (· != '\n')).drop 1)
    | '[' :: rest => do
      let (d, rest) ← readHeader d rest
      readLines fuel d rest
    | inside => do
      let (d, rest) ← readEntry d inside
      readLines fuel d rest

/-- The table that a text writes. -/
def parse (text : String) : Option Entries :=
  let cs := text.toList
  (readLines (cs.length + 1) .empty cs).map Draft.entries

end ApiOutline.Toml
