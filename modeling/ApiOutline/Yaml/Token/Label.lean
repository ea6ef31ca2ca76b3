/-
Names, tags and directives.

These are the parts of a text that are written in a fixed form, with hardly any room for blanks:
the names of anchors, the tags that say what a node is, and the lines that begin with a percent
sign.
-/
import ApiOutline.Yaml.Token
import ApiOutline.Fault
import ApiOutline.Text.Numeral
import ApiOutline.Text.Utf8

set_option autoImplicit false

namespace ApiOutline.Yaml

/-! ## Names -/

/-- The name of an anchor, behind the sign for one. -/
def readName (cs : List Spot) : Reading (String × List Spot) :=
  let name := leading isNameChar cs
  let rest := skip isNameChar cs
  if name.isEmpty then failAt .badName cs
  else if endsToken (front rest) || "?:,]\x7d%@\x60".toList.contains (front rest) then
    .ok (String.ofList name, rest)
  else failAt .badName rest

/-! ## Tags -/

/-- Characters of a tag other than escapes. -/
def isTagChar (c : Char) : Bool :=
  c.isAlphanum || "-;/?:@&=+$,_.!~*\x27()[]".toList.contains c

/-- The octets of consecutive escapes. -/
def readOctets : (fuel : Nat) → List UInt8 → List Spot → Reading (List UInt8 × List Spot)
  | 0, done, cs => .ok (done.reverse, cs)
  | fuel + 1, done, cs =>
    if front cs == '%' then
      match Text.numeral? 16 [ahead 1 cs], Text.numeral? 16 [ahead 2 cs] with
      | some a, some b => readOctets fuel (UInt8.ofNat (a * 16 + b) :: done) (cs.drop 3)
      | _, _ => failAt .badTag cs
    else .ok (done.reverse, cs)

/-- The characters of a tag. Escapes write octets, and those have to write characters. -/
def readTagText : (fuel : Nat) → List Char → List Spot → Reading (List Char × List Spot)
  | 0, done, cs => .ok (done.reverse, cs)
  | fuel + 1, done, cs =>
    if front cs == '%' then do
      let (octets, rest) ← readOctets cs.length [] cs
      match Text.decodeUtf8? octets with
      | some s => readTagText fuel (s.toList.reverse ++ done) rest
      | none => failAt .badTag cs
    else if isTagChar (front cs) then readTagText fuel (front cs :: done) (cs.drop 1)
    else .ok (done.reverse, cs)

/-- The text of a tag, which is not empty. -/
def readTagPart (cs : List Spot) : Reading (String × List Spot) := do
  if front cs == '%' || isTagChar (front cs) then
    let (text, rest) ← readTagText cs.length [] cs
    return (String.ofList text, rest)
  else failAt .badTag cs

/-- A handle: an exclamation mark, or two with a name between them. -/
def readHandle (cs : List Spot) : Reading (String × List Spot) :=
  let rest := cs.drop 1
  if front cs != '!' then failAt .badTag cs
  else if front rest == ' ' then .ok ("!", rest)
  else
    let name := leading isNameChar rest
    let behind := skip isNameChar rest
    if front behind == '!' then
      .ok (String.ofList ('!' :: name ++ ['!']), behind.drop 1)
    else failAt .badTag behind

/-- Is there a second exclamation mark before the word ends? -/
def hasHandle (cs : List Spot) : Bool :=
  (leading (fun c => !endsWord c) cs).contains '!'

/-- A tag, from its exclamation mark on: verbatim in angle brackets, none at all, or with a handle,
which is a single exclamation mark unless another is written. -/
def readTag (cs : List Spot) : Reading (Token × List Spot) := do
  let rest := cs.drop 1
  let (token, rest) ← (do
    if front rest == '<' then
      let (text, rest) ← readTagPart (rest.drop 1)
      if front rest == '>' then return (Token.tag none text, rest.drop 1)
      else failAt .badTag rest
    else if endsToken (front rest) then return (Token.tag none "!", rest)
    else if hasHandle rest then
      let (handle, rest) ← readHandle cs
      let (text, rest) ← readTagPart rest
      return (Token.tag (some handle) text, rest)
    else
      let (text, rest) ← readTagPart rest
      return (Token.tag (some "!") text, rest) : Reading (Token × List Spot))
  if endsWord (front rest) then return (token, rest) else failAt .badTag rest

/-! ## Directives -/

/-- A number of a version. -/
def readVersionPart (cs : List Spot) : Reading (Nat × List Spot) :=
  match leading Text.isDigit cs with
  | [] => failAt .badDirective cs
  | ds =>
    if Fault.digitLimit < ds.length then failAt (.tooManyDigits ds.length) cs
    else .ok (Text.digitsNumber ds, skip Text.isDigit cs)

def readVersion (cs : List Spot) : Reading (Directive × List Spot) := do
  let (major, rest) ← readVersionPart (skip isSpace cs)
  if front rest != '.' then failAt .badDirective rest
  let (minor, rest) ← readVersionPart (rest.drop 1)
  if endsWord (front rest) then return (.version major minor, rest) else failAt .badDirective rest

def readHandleMeaning (cs : List Spot) : Reading (Directive × List Spot) := do
  let (handle, rest) ← readHandle (skip isSpace cs)
  if front rest != ' ' then failAt .badDirective rest
  let (lead, rest) ← readTagPart (skip isSpace rest)
  if endsWord (front rest) then return (.handle handle lead, rest) else failAt .badDirective rest

/-- A directive, from its percent sign on, without the end of its line. -/
def readDirective (cs : List Spot) : Reading (Directive × List Spot) := do
  let name := leading isNameChar (cs.drop 1)
  let rest := skip isNameChar (cs.drop 1)
  if name.isEmpty || !endsWord (front rest) then failAt .badDirective rest
  else
    match String.ofList name with
    | "YAML" => readVersion rest
    | "TAG" => readHandleMeaning rest
    | name => return (.other name, skip (fun c => !isLineEnd c) rest)

end ApiOutline.Yaml
