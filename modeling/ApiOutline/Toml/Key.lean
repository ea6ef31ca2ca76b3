/-
Keys.

A key is what stands in front of an equals sign: a bare word, a quoted one, or several of them with
points between, which lead through tables. A key is first delimited and then taken apart.
-/
import ApiOutline.Text.Alphanumeric
import ApiOutline.Toml.Quoted

set_option autoImplicit false

namespace ApiOutline.Toml

/-! ## Where a key ends -/

/-- Where a reader of keys is: in a bare word, behind a word, or in a quoted one. -/
inductive KeyState where
  | bare
  | behind
  | quoted (quote : Char)
  deriving DecidableEq, Repr

/-- Does a bare word begin next? -/
def bareWordFollows (rest : List Char) : Bool :=
  (rest.head?).any fun c => !Text.isBlank c && c != '.'

/-- A key up to the equals sign, and what stands behind that. `dotted` tells whether there was a
point, and `done` holds the characters before, last one first. -/
def keyFrom (state : KeyState) (dotted : Bool) (done : List Char) :
    List Char → Option (List Char × List Char)
  | [] => none
  | c :: rest =>
    if c == '\n' then none
    else
      let next (state : KeyState) (dotted : Bool) := keyFrom state dotted (c :: done) rest
      match state with
      | .quoted quote =>
        if c == quote && !endsInBackslash done.reverse then next .behind dotted
        else next (.quoted quote) dotted
      | .bare =>
        if Text.isBlank c then next .behind dotted
        else if c == '.' then next .bare true
        else if Text.isAlphanumeric c || c == '_' || c == '-' then next .bare dotted
        else if dotted && done.head? == some '.' && (quote? c).isSome then next (.quoted c) dotted
        else if c == '=' then some (done.reverse, rest)
        else none
      | .behind =>
        if Text.isBlank c then
          next (if dotted && bareWordFollows rest then .bare else .behind) dotted
        else if c == '.' then next (if bareWordFollows rest then .bare else .behind) true
        else if c == '=' then some (done.reverse, rest)
        else none

/-- The key of a line, and what stands behind the equals sign. The first character of a key may be
any other. -/
def readKey : List Char → Option (List Char × List Char)
  | [] => none
  | c :: rest =>
    if c == '=' then none
    else if (quote? c).isSome then keyFrom (.quoted c) false [c] rest
    else keyFrom .bare false [c] rest

/-- The key of an entry in braces, where anything but an equals sign outside of quotes may be part
of a key. -/
def readInnerKey (quote : Option Char) : List Char → Option (List Char × List Char)
  | [] => none
  | c :: rest =>
    let next (quote : Option Char) :=
      (readInnerKey quote rest).map fun (key, behind) => (c :: key, behind)
    match quote with
    | some q => next (if c == q then none else quote)
    | none =>
      if c == '=' then some ([], rest)
      else if c == '\n' then none
      else next (if (quote? c).isSome then some c else none)

/-! ## The names in a key -/

/-- The names between points, outside of quotes. -/
def bareNames (cs : List Char) : List (List Char) :=
  (Text.splitAt '.' cs).map (Text.strip Text.isBlank)

/-- The names of a key with quotes and points; `quote` is the quote that is open, and `done` holds
the characters of the piece before, last one first. -/
def piecesFrom (quote : Option Char) (done : List Char) : List Char → List (List Char)
  | [] => if quote.isSome then [done.reverse] else bareNames done.reverse
  | c :: rest =>
    match quote with
    | some q =>
      if c == q then done.reverse :: piecesFrom none [] rest else piecesFrom quote (c :: done) rest
    | none =>
      if (quote? c).isSome then bareNames done.reverse ++ piecesFrom (some c) [] rest
      else piecesFrom none (c :: done) rest

/-- The names that a key leads through, and the one that it ends with. Empty names in between are
passed over, and nothing is left of empty ones at the end. -/
def path? (names : List (List Char)) : Option (List String) :=
  match (names.reverse.dropWhile List.isEmpty) with
  | [] => none
  | last :: before =>
    some (((before.filter fun n => !n.isEmpty).reverse ++ [Text.strip Text.isBlank last]).map
      String.ofList)

/-- The names in a key. -/
def keyNames (key : List Char) : Option (List String) :=
  let key := Text.strip Text.isBlank key
  if key.contains '.' then
    if key.any fun c => (quote? c).isSome then path? (piecesFrom none [] key)
    else path? (Text.splitAt '.' key)
  else
    match key.head?, key.getLast? with
    | some first, some last =>
      if (quote? first).isSome && first == last then
        (unescapeName (key.drop 1).dropLast).map fun name => [String.ofList name]
      else some [String.ofList key]
    | _, _ => none

/-! ## The names in a header -/

/-- Characters of names in headers. -/
def isNameChar (c : Char) : Bool :=
  c.isAlphanum || c == '_' || c == '-'

/-- One name, and what stands behind it and behind blanks. A quoted one stands for itself. -/
def readName (cs : List Char) : Option (String × List Char) := do
  let cs := cs.dropWhile Text.isBlank
  let (name, rest) ← match (cs.head?).bind quote? with
    | some quote => upTo .single [quote.char] false (cs.drop 1)
    | none => some (cs.takeWhile isNameChar, cs.dropWhile isNameChar)
  if name.isEmpty then none else some (String.ofList name, rest.dropWhile Text.isBlank)

/-- The names of a header up to the closing bracket, and what stands from there on. -/
def readNames : (fuel : Nat) → List Char → Option (List String × List Char)
  | 0, _ => none
  | fuel + 1, cs => do
    let (name, rest) ← readName cs
    match rest with
    | '.' :: rest =>
      let (names, rest) ← readNames fuel rest
      return (name :: names, rest)
    | rest => return ([name], rest)

end ApiOutline.Toml
