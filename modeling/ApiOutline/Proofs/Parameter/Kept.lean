/-
What a parameter keeps of its node.

What is derived for a parameter is put under names that its fields have in the outline, so it is
never kept. What is kept are entries of the node itself, and everything is kept that is under no
name of a field (`parameterOf_keeps`). More than that cannot be said of all nodes. Something that a
node has under the second name of a field fills the field if nothing is under the first, and that
depends on what is derived for the node.
-/
import ApiOutline.Proofs.Extras
import ApiOutline.Proofs.Parameter.Derived

set_option autoImplicit false

namespace ApiOutline

/-- Both names of all fields of a parameter. -/
def Parameter.names : List String :=
  Parameter.fieldNames.flatMap fun f => [f.shown, f.own]

namespace Decoding

open Outcome Value

/-- What is kept of a node: some of its entries, and among them all that are beyond some names. -/
structure KeptBeyond (names : List String) (es kept : Entries) : Prop where
  sublist : kept.Sublist es
  beyond : kept.beyond names = es.beyond names

/-- **A parameter keeps entries of its node, and all that are under no name of a field.** -/
theorem parameterOf_keeps {d : Dialect} {node : Value} {p : Parameter}
    (h : parameterOf d node = .ok p) :
    ∃ es, node.entries = .ok es ∧ KeptBeyond Parameter.names es (Entries.ofTexts p.extras) := by
  obtain ⟨es, name, hes, -, -, hread⟩ := exists_readFrom h
  -- nothing is put where it could be kept
  have hderivedNames : ∀ a ∈ derivation d es name, a.1 ∈ Parameter.fieldNames.map (·.shown) := by
    intro a ha
    have hsub : derivedNames ⊆ Parameter.fieldNames.map (·.shown) := by decide
    exact hsub (derivation_names d es name a ha)
  have hnames : ∀ f ∈ Parameter.fieldNames,
      f.shown ∈ Parameter.names ∧ f.own ∈ Parameter.names := by decide
  have hkept := FieldName.entries_of_extras_assign hread.extras hderivedNames
  refine ⟨es, hes, ?_⟩
  rw [hkept]
  constructor
  case sublist => exact List.filter_sublist
  case beyond => exact FieldName.beyond_of_kept hnames

end Decoding

end ApiOutline
