/-
Parameters as a description states them, and what is derived for the outline.

The node of a parameter is kept as it is and gains fields: its name in camel case, the flag for
where it travels, the one value it can have, the pattern it stands for, whether it is required and
the mark that goes with that. The record is then read from the node with those fields in it, so a
node that already says something under one of these names is read the same way as any other.
-/
import ApiOutline.Limits
import ApiOutline.Name.Method
import ApiOutline.Outline.Reading
import ApiOutline.Trace

set_option autoImplicit false

namespace ApiOutline

/-- How a dialect spells that a parameter is a form field: the `form_location` of its decoder. -/
def Dialect.formLocation : Dialect → String
  | .listing => "form"
  | .paths => "formData"

/-- The field in which a dialect states where a parameter travels. -/
def Dialect.locationField : Dialect → String
  | .listing => "paramType"
  | .paths => "in"

namespace Decoding

/-- The flags for the places in which both dialects agree: the table `PARAMETER_LOCATIONS`. -/
def locationFlags : List (String × String) :=
  [("body", "isBodyParameter"), ("path", "isPathParameter"), ("query", "isQueryParameter"),
    ("header", "isHeaderParameter")]

/-- Is the value this text? -/
def isText (s : String) : Value → Bool
  | .scalar (.str t) => t == s
  | _ => false

/-- The name in camel case. -/
def withCamelCase (node : Value.Entries) : Except Fault Value.Entries := do
  let name ← Name.camelCaseOfValue (node.get "name")
  return node.set "camelCaseName" (.str name)

/-- The only value, if the enumeration of the node as written has just one. -/
def withSingleton (written node : Value.Entries) : Except Fault Value.Entries := do
  let values := written.get "enum"
  if values.truthy then
    if (← values.size) = 1 then
      let only ← values.first
      return (node.set "isSingleton" (.bool true)).set "singleton" only
    else return node
  else return node

/-- The flag for where the parameter travels, and the place itself if the node does not say it.
A place that is no possible key is refused. -/
def withLocation (d : Dialect) (location : Value) (node : Value.Entries) :
    Except Fault Value.Entries := do
  if isText d.formLocation location then
    return (node.set "isFormParameter" (.bool true)).setNew "in" (.str "formData")
  else
    match ← location.asKey with
    | some (.str place) =>
      match locationFlags.lookup place with
      | some flag => return (node.set flag (.bool true)).setNew "in" location
      | none => return node
    | _ => return node

/-- The pattern that a parameter of the query stands for, if the node as written gives one. -/
def withPattern (location : Value) (written node : Value.Entries) : Value.Entries :=
  let pattern := written.get "x-name-pattern"
  if isText "query" location && pattern.truthy then
    (node.set "isPatternType" (.bool true)).set "pattern" pattern
  else node

/-- Whether the parameter is required, as a truth value, and the mark of one that is not. -/
def withRequired (written node : Value.Entries) : Value.Entries :=
  let required := (written.get "required").truthy
  (node.set "required" (.bool required)).set "cardinality" (.str (if required then "" else "?"))

/-- The node with everything that is derived from it, in the order in which `_build_parameter`
puts it there. The order matters, since what is put in later stands behind what was put in before,
and is kept in this order. -/
def classified (d : Dialect) (location : Value) (node : Value.Entries) :
    Except Fault Value.Entries := do
  let named ← withCamelCase node
  let single ← withSingleton node named
  let placed ← withLocation d location single
  return withRequired node (withPattern location node placed)

/-- The parameter of a node, as `_build_parameter` makes it. The node is copied before anything is
derived, which fails if it has too many levels. That a parameter is not required is noted in its
method too; this is left to `withParameters`. -/
def parameterOf (d : Dialect) (node : Value) : Except Fault Parameter := do
  let location ← node.field d.locationField
  let entries ← node.entries
  node.checkCopy
  let derived ← classified d location entries
  Parameter.ofEntries derived

/-- A method with the parameters of the nodes behind its own, and with the note that one of them
is not required. -/
def withParameters (m : Method) (ps : List Parameter) : Method :=
  { m with
    parameters := m.parameters ++ ps
    hasOptionalParameter := m.hasOptionalParameter || ps.any fun p => !p.required }

end Decoding

end ApiOutline
