/-
Models as a description defines them.

A definition becomes a model of the same name. Its properties turn from an object into a list and
each of them gains its name, the name in camel case and its type with a capital letter.
-/
import ApiOutline.Limits
import ApiOutline.Name.Method
import ApiOutline.Outline.Reading
import ApiOutline.Text.Octets

set_option autoImplicit false

namespace ApiOutline.Decoding

/-- The type of a property with a capital letter; nothing, if none is stated. Octets are taken for
letters. -/
def capitalizedType (type : Value) : Except Fault Value :=
  match type.orElse (.str "") with
  | .scalar (.bytes octets) => .ok (.bytes (Text.capitalizeOctets octets))
  | type => type.asText.map fun s => .str (Text.capitalize s)

/-- The property that a schema under a key defines, as `_build_property` makes it. The schema is
copied before anything is asked of it, which fails for one of too many levels; name, camel case
and type are put into the copy, and the record is read from that. -/
def propertyOf (key : Scalar) (schema : Value) : Except Fault Property := do
  schema.checkCopy
  let node ← schema.field "name"
  let name := node.orElse (.scalar key)
  let camelCaseName ← Name.camelCaseOfValue name
  let entries ← schema.entries
  let entries : Value.Entries := entries
  let type ← capitalizedType (entries.get "type")
  Property.ofEntries
    (((entries.set "name" name).set "camelCaseName" (.str camelCaseName)).set "type" type)

/-- The properties of a definition, one for each of its schemas. -/
def propertiesOf (definition : Value) : Except Fault (List Property) := do
  let stated ← definition.field "properties"
  let schemas ← (stated.orElse (.object [])).entries
  schemas.mapM fun (key, schema) => propertyOf key schema

/-- The model that a definition under a key defines: one turn of the loop in `_decode_models`. The
definition is copied first, which fails if it has too many levels. -/
def modelOf (version : Option String) (key : Scalar) (definition : Value) : Except Fault Model := do
  definition.checkCopy
  let properties ← propertiesOf definition
  let entries ← definition.entries
  let entries : Value.Entries := entries
  let name : Value := .scalar key
  let version := (version.map Value.str).getD .null
  Model.ofEntries properties
    ((((entries.set "properties" .null).set "name" name).set "modelName" name).set "version"
      version)

/-- Is a definition under this key an extension of the format and no model? -/
def isExtension (key : Scalar) : Except Fault Bool := do
  let name ← Value.asText (.scalar key)
  return Text.beginsWith "x-".toList name.toList

/-- The models of all definitions, in order, as `_decode_models` makes them. Extensions of the
format are passed over in one of the two dialects only. -/
def modelsOf (skipExtensions : Bool) (version : Option String) (definitions : Value) :
    Except Fault (List Model) := do
  let stated ← (definitions.orElse (.object [])).entries
  let models ← stated.mapM fun (key, definition) => do
    if skipExtensions then
      if ← isExtension key then return none
    (modelOf version key definition).map some
  return models.filterMap id

end ApiOutline.Decoding
