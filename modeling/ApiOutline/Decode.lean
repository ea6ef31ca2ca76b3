/-
From a description to its outline.

The decoder for the description's version is chosen, takes the description apart, and the
parameters of every method are put into groups.
-/
import ApiOutline.Decoding.Listing
import ApiOutline.Decoding.Paths
import ApiOutline.Decoding.Selection
import ApiOutline.Outline.Groups

set_option autoImplicit false

namespace ApiOutline

namespace Decoding

/-- The outline by the decoder of one dialect, its parameters not yet in groups. This is `decode`
of one of the two decoders. -/
def decodeAs (d : Dialect) (spec : Value.Entries) (o : Options) : Trace Summary :=
  match d with
  | .listing => decodeListing spec o
  | .paths => decodePaths spec o

end Decoding

/-- The outline of a description, as `decode_spec` makes it: the decoder is chosen by
`select_decoder`, and what it makes is completed by `finalize`. What is no object has no version,
so no decoder gets it. -/
def decode (spec : Value) (o : Options) : Trace Summary := do
  let dialect ← Decoding.select spec
  let entries ← spec.entries
  let summary ← Decoding.decodeAs dialect entries o
  return summary.grouped

end ApiOutline
