/-
The media types of a method.

An operation may list the types of its answers and of its requests, and so may the description as
a whole. What the operation lists counts, even if the list is empty. What the description lists is
narrowed to JSON where that is among the types of answers, but not for requests.
-/
import ApiOutline.Limits
import ApiOutline.Outline.Basic
import ApiOutline.Value.Access

set_option autoImplicit false

namespace ApiOutline.Decoding

/-- The media type that is preferred where there is a choice. -/
def jsonType : String := "application/json"

/-- The media types of a method and the header that announces those of its answers. -/
structure Media where
  accepts : List Value
  contentTypes : List Value
  headers : List HeaderSpec

/-- The types of answers, if anything says what they are: `produces` in `_resolve_media_types`,
after the description has been asked where the operation says nothing. -/
def answerTypes (spec operation : Value.Entries) : Except Fault (Option (List Value)) := do
  let own := operation.get "produces"
  let shared := spec.get "produces"
  if !own.isNull then own.elements.map some
  else if shared.truthy then
    if ← shared.containsText jsonType then return some [.str jsonType]
    else shared.elements.map some
  else return none

/-- The types of requests, if anything says what they are: `consumes` in `_resolve_media_types`.
-/
def requestTypes (spec operation : Value.Entries) : Except Fault (Option (List Value)) := do
  let own := operation.get "consumes"
  let types := if own.isNull then spec.get "consumes" else own
  if types.isNull then return none else types.elements.map some

/-- Every type in quotes, with commas between them. -/
def quotedTypes (types : List Value) : String :=
  ", ".intercalate (types.map fun v => "'" ++ v.text ++ "'")

/-- The header that announces the types of answers, if there are any. -/
def acceptHeaders (types : List Value) : List HeaderSpec :=
  if types.isEmpty then [] else [⟨"Accept", quotedTypes types⟩]

/-- The media types of an operation and the header for its answers, as `_resolve_media_types` puts
them into a method. -/
def mediaOf (spec operation : Value.Entries) : Except Fault Media := do
  let answers ← answerTypes spec operation
  let accepts := answers.getD []
  Value.checkTexts accepts
  let requests ← requestTypes spec operation
  return { accepts, contentTypes := requests.getD [], headers := acceptHeaders accepts }

/-- The header that announces the types of requests: all of them between one pair of quotes. They
have to be texts. -/
def contentTypeHeaders (types : List Value) : Except Fault (List HeaderSpec) := do
  if types.isEmpty then return []
  else
    let names ← types.mapM Value.searchable
    return [⟨"Content-Type", "'" ++ ",".intercalate names ++ "'"⟩]

end ApiOutline.Decoding
