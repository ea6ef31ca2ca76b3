/-
Which decoder a description is for.

A description states its version under one of two names. The decoder for listings takes major
version one, the one for paths takes major version two from `2.0` on, and they are asked in this
order. A description that states no version may belong to a later family, which states it under a
name of its own; the refusal then carries that version.
-/
import ApiOutline.Limits
import ApiOutline.Trace
import ApiOutline.Value.Access
import ApiOutline.Version

set_option autoImplicit false

namespace ApiOutline

/-- The versions that a dialect covers, the `version_range` of its decoder. -/
def Dialect.versionRange : Dialect → String
  | .listing => "1.x"
  | .paths => "^2.0"

namespace Decoding

/-- The version that a description states, as `spec_version` finds it: null for what is no object,
and otherwise the first of two fields that counts as present, or the second. -/
def statedVersion : Value → Value
  | .object es =>
    let es : Value.Entries := es
    (es.get "swagger").orElse (es.get "swaggerVersion")
  | _ => .null

/-- Does the decoder of a dialect take a description? This is `accept`. The version may be written
as a number, which is turned into a text first; and that fails if it has too many digits. -/
def accepts (d : Dialect) (spec : Value) : Except Fault Bool := do
  (statedVersion spec).checkText
  match (statedVersion spec).text? with
  | none => return false
  | some version => Version.satisfies version d.versionRange

/-- The version to name in a refusal: the one that is stated, or else what an object has under the
name that a later family uses. -/
def refusedVersion (spec : Value) : Value :=
  match spec, statedVersion spec with
  | .object es, .null => Value.Entries.get es "openapi"
  | _, v => v

/-- The first dialect of a list that takes a description. This is the loop in `select_decoder`,
with the refusal that stands behind it. The refusal is put into words when it is raised, so
wording it may fail in its place. -/
def selectAmong (spec : Value) : List Dialect → Trace Dialect
  | [] => .fail (Refusal.unsupportedVersion (refusedVersion spec)).raised
  | d :: rest => do
    if ← accepts d spec then
      Trace.tell (.selected d (statedVersion spec).text)
      return d
    else selectAmong spec rest

/-- The dialect of a description, as `select_decoder` finds it among all decoders. -/
def select (spec : Value) : Trace Dialect :=
  selectAmong spec [.listing, .paths]

end Decoding

end ApiOutline
