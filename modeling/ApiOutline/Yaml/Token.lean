/-
The tokens of a YAML text.

Besides what is written there are tokens for what indentation says: that a list or a mapping
begins, and that one ends. A key is marked by a token in front of it, although it shows only
behind it that it is one.
-/
import ApiOutline.Yaml.Defect

set_option autoImplicit false

namespace ApiOutline.Yaml

/-- A line about the document itself. -/
inductive Directive where
  | version (major minor : Nat)
  /-- `handle` stands for `lead` in tags. -/
  | handle (name lead : String)
  | other (name : String)
  deriving DecidableEq, Repr

inductive Token where
  | directive (d : Directive)
  | documentStart
  | documentEnd
  | textEnd
  | blockListStart
  | blockMappingStart
  | blockEnd
  | flowListStart
  | flowListEnd
  | flowMappingStart
  | flowMappingEnd
  | flowEntry
  | blockEntry
  | key
  | value
  /-- A node that is written elsewhere. -/
  | reference (name : String)
  | anchor (name : String)
  | tag (handle : Option String) (rest : String)
  | scalar (text : String) (plain : Bool)
  deriving DecidableEq, Repr

/-- A token and where it begins. -/
structure Placed where
  token : Token
  place : Place
  deriving DecidableEq, Repr

end ApiOutline.Yaml
