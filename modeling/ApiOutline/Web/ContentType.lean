/-
Content types.

A content type is followed by parameters behind semicolons, each a name and a value, which may be
quoted. A value may also be cut into numbered pieces, or be written in octets behind percent signs,
with the name of the encoding of those octets in front; such values count after all the others.
The parameter that is of interest here names the encoding of a text.
-/
import ApiOutline.Text.Blank
import ApiOutline.Text.Encoding
import ApiOutline.Web.Percent

set_option autoImplicit false

namespace ApiOutline.Web.ContentType

/-- Pieces of one value of which only some are numbered cannot be put in order. -/
inductive Defect where
  | unorderedPieces
  deriving DecidableEq, Repr

/-! ## Quotes -/

/-- A text in which one thing is replaced by another, from the front. -/
def replaceAll (old new : List Char) : List Char → List Char
  | [] => []
  | c :: rest =>
    match _h : Text.after? old (c :: rest) with
    | some behind =>
      if old.isEmpty then c :: replaceAll old new rest else new ++ replaceAll old new behind
    | none => c :: replaceAll old new rest
termination_by cs => cs.length
decreasing_by
  · simp
  · have hl := congrArg List.length (Text.eq_append_of_after? (by assumption))
    have hp : 0 < old.length := by
      cases old with
      | nil => simp_all
      | cons => simp
    simp only [List.length_append] at hl
    omega
  · simp

/-- A value with backslashes in front of what would end it. -/
def quoted (cs : List Char) : List Char :=
  replaceAll ['\x22'] ['\\', '\x22'] (replaceAll ['\\'] ['\\', '\\'] cs)

/-- A value without the quotes or the angle brackets around it. -/
def unquoted (cs : List Char) : List Char :=
  let inner := (cs.drop 1).dropLast
  if cs.length < 2 then cs
  else if cs.head? == some '\x22' && cs.getLast? == some '\x22' then
    replaceAll ['\\', '\x22'] ['\x22'] (replaceAll ['\\', '\\'] ['\\'] inner)
  else if cs.head? == some '<' && cs.getLast? == some '>' then inner
  else cs

/-- A value in quotes. -/
def inQuotes (cs : List Char) : List Char := ['\x22'] ++ cs ++ ['\x22']

/-! ## Parameters -/

/-- What stands between semicolons that are not quoted. A quote behind a backslash is none. -/
def piecesFrom (previous : Option Char) (isQuoted : Bool) : List Char → List (List Char)
  | [] => [[]]
  | c :: rest =>
    if c == ';' && !isQuoted then [] :: piecesFrom none false rest
    else
      let turns := c == '\x22' && previous != some '\\'
      match piecesFrom (some c) (if turns then !isQuoted else isQuoted) rest with
      | [] => [[c]]
      | piece :: pieces => (c :: piece) :: pieces

/-- A name and a value. A name without a value stays as it is written. -/
def parameter (piece : List Char) : List Char × List Char :=
  let trim := Text.strip Text.isBlank
  match Text.cutAt? ['='] piece with
  | some (name, value) => ((trim name).map Char.toLower, trim value)
  | none => (trim piece, [])

/-- The type itself, which is no parameter as a rule, and what follows it. -/
def parameters (header : String) : List (List Char × List Char) :=
  (piecesFrom none false header.toList).map parameter

/-! ## Pieces of values -/

/-- A piece of a value that belongs to a name. -/
structure Fragment where
  name : List Char
  number : Option Nat
  value : List Char
  /-- Is it written in octets? -/
  isCoded : Bool

/-- Does a name end in the number of a piece, and does it tell a number? -/
def numbered? (name : List Char) : Option (List Char × Option Nat) :=
  let isWord (c : Char) : Bool := c.isAlphanum || c == '_'
  match name.takeWhile isWord, name.dropWhile isWord with
  | [], _ => none
  | base, ['*'] => some (base, none)
  | base, '*' :: rest =>
    let digits := rest.takeWhile Text.isDigit
    let behind := rest.dropWhile Text.isDigit
    if !digits.isEmpty && (behind == [] || behind == ['*']) then
      some (base, some (Text.digitsNumber digits))
    else none
  | _, _ => none

/-- The piece of a value that a parameter is, if it is one. -/
def fragment? (p : List Char × List Char) : Option Fragment :=
  (numbered? p.1).map fun (name, number) =>
    { name, number
      value := unquoted p.2
      isCoded := p.1.getLast? == some '*' }

/-- Does one piece go before another? Pieces of one number are ordered by what they say. -/
def Fragment.goesBefore (a b : Fragment) : Bool :=
  let m := a.number.getD 0
  let n := b.number.getD 0
  m < n || (m == n &&
    (String.ofList a.value < String.ofList b.value ||
      (a.value == b.value && (!a.isCoded || b.isCoded))))

/-- A value of octets, with the name of their encoding if it is told. -/
structure Coded where
  encoding : Option String
  value : List Char

/-- The value of some pieces in order. -/
def assembled (fragments : List Fragment) : List Char ⊕ Coded :=
  let value := quoted <| fragments.flatMap fun f =>
    if f.isCoded then (Percent.octets f.value).map Text.latinChar else f.value
  if fragments.any (·.isCoded) then
    match Text.splitAt '\x27' value with
    | encoding :: _ :: first :: rest =>
      .inr ⟨some (String.ofList encoding), ['\x27'].intercalate (first :: rest)⟩
    | _ => .inr ⟨none, value⟩
  else .inl value

/-! ## The encoding of a text -/

/-- The text that octets write. Where a mark would tell the order of octets and there is none, the
smaller ones come first. -/
def textOf (e : Text.Encoding) (octets : List UInt8) : Except Text.Undecodable String :=
  match e, e.decode octets with
  | .utf16 none, .error _ => (Text.Encoding.utf16 (some .smallFirst)).decode octets
  | .utf32 none, .error _ => (Text.Encoding.utf32 (some .smallFirst)).decode octets
  | _, r => r

/-- The text of a value of octets. If its encoding is not known, or does not fit, the octets stand
for themselves. -/
def Coded.text (c : Coded) : List Char :=
  let plain := unquoted (inQuotes c.value)
  let encoding := match c.encoding with
    | some "" | none => "us-ascii"
    | some name => name
  match Text.Encoding.named? encoding with
  | none => plain
  | some e =>
    match textOf e (plain.map fun c => UInt8.ofNat c.toNat) with
    | .ok s => if s.toList.contains Text.replacement then plain else s.toList
    | .error _ => plain

/-- The name of the parameter that tells the encoding. -/
def charsetName : List Char := "charset".toList

/-- The pieces of values, by the name of the value. They are in order, or cannot be ordered. -/
def orderedFragments (all : List Fragment) (name : List Char) : Except Defect (List Fragment) :=
  let own := all.filter fun f => f.name == name
  if own.any (·.number.isNone) && own.any (·.number.isSome) then .error .unorderedPieces
  else .ok (own.mergeSort Fragment.goesBefore)

/-- The value of the parameter that tells the encoding: the first one that is a whole, and else
the one in pieces. The first part of a header counts as a parameter as well. -/
def charsetValue? (header : String) : Except Defect (Option (List Char)) := do
  let all := parameters header
  let rest := all.drop 1
  let fragments := rest.filterMap fragment?
  let names := (fragments.map Fragment.name).eraseDups
  let groups ← names.mapM fun name => do return (name, ← orderedFragments fragments name)
  let wholes := (all.take 1).map (fun p => (p.1, unquoted p.2)) ++
    (rest.filter fun p => (numbered? p.1).isNone).map fun p =>
      (p.1, unquoted (inQuotes (quoted (unquoted p.2))))
  match wholes.find? fun p => p.1.map Char.toLower == charsetName with
  | some p => return some p.2
  | none =>
    match groups.find? fun g => g.1.map Char.toLower == charsetName with
    | some g =>
      match assembled g.2 with
      | .inl value => return some (unquoted (inQuotes value))
      | .inr coded => return some coded.text
    | none => return none

/-- The name of the encoding that a header tells, in small letters. It has to be ASCII. -/
def charset? (header : String) : Except Defect (Option String) := do
  match ← charsetValue? header with
  | some value =>
    if value.all (·.toNat < 0x80) then return some (String.ofList (value.map Char.toLower))
    else return none
  | none => return none

end ApiOutline.Web.ContentType
