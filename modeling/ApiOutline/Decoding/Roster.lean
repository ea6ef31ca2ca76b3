/-
The services of a run, and the names in them.

Operations belong to the service of their first tag. Services are created when their first
operation is met and stay in that order; a method joins at the end of its service. The name of a
method is made an identifier that no earlier method of the service has.
-/
import ApiOutline.Name.Method
import ApiOutline.Options
import ApiOutline.Outline.Reading
import ApiOutline.Trace

set_option autoImplicit false

namespace ApiOutline.Decoding

/-- Services by the tag that they were created for, in order of creation: the table `services` of
a decoder, and at the same time the list of services in its summary, which has the same in the
same order. -/
abbrev Roster := List (Scalar × Service)

namespace Roster

/-- The service of a tag. -/
def service? (roster : Roster) (key : Scalar) : Option Service :=
  (List.find? (fun e => e.1.same key) roster).map (·.2)

/-- The roster with a service under a tag: in its place, or at the end. -/
def put (key : Scalar) (service : Service) : Roster → Roster
  | [] => [(key, service)]
  | e :: rest => if e.1.same key then (e.1, service) :: rest else e :: put key service rest

end Roster

/-- The service of operations without a tag, if the caller names none. -/
def defaultServiceName : String := "API"

/-- The tag under which an operation is filed: its first one, else the service that the caller
names, else the default. This is the name in `_ensure_service`, which need not be a text. -/
def serviceTag (o : Options) (operation : Value) : Except Fault Value := do
  let tags ← operation.field "tags"
  let tag ← if tags.truthy then tags.first else .ok tags
  return tag.orElse (o.serviceName.orElse (.str defaultServiceName))

/-- A new service, named by its tag. The record is checked, and a tag that is no text is a problem
in both of its names. -/
def newService (version : Option String) (tag : Value) : Except Fault Service :=
  let name := Reading.text "name" tag
  let serviceName := Reading.text "service_name" tag
  Reading.record .service (name.problems ++ serviceName.problems)
    { name := name.value, serviceName := serviceName.value, version := version }

/-- The service of an operation, as it is so far, and the tag it is filed under. This is
`_ensure_service`, except that a new service is put into the roster by the caller, together with
its method. A tag that is no scalar names no service. -/
def serviceOf (o : Options) (version : Option String) (roster : Roster) (operation : Value) :
    Except Fault (Scalar × Service) := do
  let tag ← serviceTag o operation
  let key := (← tag.asKey).getD .null
  match roster.service? key with
  | some service => return (key, service)
  | none =>
    let service ← newService version tag
    return (key, service)

/-- A name without the name of its service and a point in front, as `_method_name` cuts it. -/
def withoutService (service : Service) (raw : Value) : Except Fault Value := do
  if raw.truthy then
    let name ← raw.asText
    match Text.after? (service.name ++ ".").toList name.toList with
    | some rest => return .str (String.ofList rest)
    | none => return raw
  else return raw

/-- The identifier for a new method of a service, free among the names of the others. This is
`_register_method_name`, with the notice that it gives where the name was taken. -/
def register (service : Service) (name : Value) : Trace String := do
  let identifier ← Name.identifierOfValue name
  let unique := Name.freeAmong service.methodNames identifier
  if unique ≠ identifier then
    Trace.tell (.renamed identifier service.name unique)
  return unique

/-- The service with one more method. -/
def withMethod (service : Service) (m : Method) : Service :=
  { service with methods := service.methods ++ [m] }

end ApiOutline.Decoding
