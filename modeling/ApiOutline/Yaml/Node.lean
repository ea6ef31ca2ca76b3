/-
The nodes of a YAML document.

A document is made of texts, lists and mappings, each of a kind. Nodes are known by number, so that
one can be referred to from several places, and from inside itself.
-/
import ApiOutline.Yaml.Kind

set_option autoImplicit false

namespace ApiOutline.Yaml

/-- What a node holds. Other nodes are held by their numbers. -/
inductive Content where
  | text (s : String)
  | list (items : List Nat)
  | mapping (entries : List (Nat × Nat))

structure Node where
  kind : Kind
  content : Content

namespace Node

/-- What stands where nothing is written. -/
def empty : Node := ⟨.null, .text ""⟩

instance : Inhabited Node := ⟨empty⟩

end Node

/-- The nodes of a document by number, and the number of the one that holds the others. -/
structure Document where
  nodes : Array Node
  root : Nat

end ApiOutline.Yaml
