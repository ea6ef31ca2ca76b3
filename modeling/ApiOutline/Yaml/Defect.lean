/-
What can be wrong with a YAML text.

The causes follow the levels at which a text is read: characters, tokens, the arrangement of
tokens, the nodes that stand for values. Where a cause was noticed is told as far as it is known.
-/
import ApiOutline.Yaml.Spot
import ApiOutline.Decimal.Shortest

set_option autoImplicit false

namespace ApiOutline.Yaml

inductive Defect where
  /-- A character that no document may contain. -/
  | forbiddenCharacter
  /-- A character that begins no token. -/
  | strayCharacter
  /-- An item, a key or a value where none may begin. -/
  | misplacedItem
  | misplacedKey
  | misplacedValue
  /-- Something that has to be a key has no colon behind it. -/
  | unfinishedKey
  | badDirective
  /-- A number with more digits than are read. -/
  | tooManyDigits (count : Nat)
  | badName
  | badTag
  | badBlockHeader
  | unterminatedText
  | badEscape
  /-- An escape for a character beyond the last one. -/
  | noSuchCharacter (code : Nat)
  /-- A document begins or ends inside a quoted text. -/
  | markInText
  | unopenedBracket
  /-- A token that does not fit where it stands. -/
  | unexpectedToken
  /-- A node that stands inside too many others. -/
  | tooDeep
  | unknownHandle
  | repeatedDirective
  | unknownVersion
  | repeatedAnchor
  | unknownAnchor
  | severalDocuments
  | unknownTag
  /-- A tag on a node of another kind. -/
  | wrongKind
  | badMerge
  | badKey
  | badOctets
  deriving DecidableEq, Repr

def Defect.text : Defect → String
  | .forbiddenCharacter => "special characters are not allowed"
  | .strayCharacter => "found a character that cannot start any token"
  | .misplacedItem => "sequence entries are not allowed here"
  | .misplacedKey => "mapping keys are not allowed here"
  | .misplacedValue => "mapping values are not allowed here"
  | .unfinishedKey => "could not find expected ':'"
  | .badDirective => "found a malformed directive"
  | .tooManyDigits _ => "found a number with too many digits"
  | .badName => "expected a name of letters and digits"
  | .badTag => "found a malformed tag"
  | .badBlockHeader => "expected chomping or indentation indicators"
  | .unterminatedText => "found unexpected end of stream in a quoted scalar"
  | .badEscape => "found unknown escape character"
  | .noSuchCharacter _ => "found an escape for a character that does not exist"
  | .markInText => "found unexpected document separator"
  | .unopenedBracket => "found a closing bracket that was not opened"
  | .unexpectedToken => "found an unexpected token"
  | .tooDeep => "found too many nodes inside each other"
  | .unknownHandle => "found undefined tag handle"
  | .repeatedDirective => "found duplicate directive"
  | .unknownVersion => "found incompatible YAML document"
  | .repeatedAnchor => "found duplicate anchor"
  | .unknownAnchor => "found undefined alias"
  | .severalDocuments => "expected a single document in the stream"
  | .unknownTag => "found a tag of unknown meaning"
  | .wrongKind => "expected a node of another kind"
  | .badMerge => "expected a mapping or list of mappings for merging"
  | .badKey => "found a key that has parts"
  | .badOctets => "found malformed base64 data"

/-- A defect and, if it is known, where it was noticed. -/
structure Malformed where
  defect : Defect
  place : Option Place
  deriving DecidableEq, Repr

/-- Lines and columns are told from one. -/
def Malformed.message (m : Malformed) : String :=
  m.defect.text ++
    (match m.place with
      | none => ""
      | some p => "\n  line " ++ Decimal.digitText (p.line + 1) ++ ", column " ++
          Decimal.digitText (p.column + 1))

/-- The outcome of reading. -/
abbrev Reading := Except Malformed

/-- Failure at the front of what is left. -/
def failAt {α : Type} (d : Defect) (cs : List Spot) : Reading α :=
  .error ⟨d, some (here cs)⟩

end ApiOutline.Yaml
