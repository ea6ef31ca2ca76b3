/-
What the two dialects share in decoding an operation: the head of the outline, the name of a
method and the record that its parameters are then put into.
-/
import ApiOutline.Decoding.Media
import ApiOutline.Decoding.Parameters
import ApiOutline.Decoding.Roster

set_option autoImplicit false

namespace ApiOutline.Decoding

/-! ## The head of the outline -/

/-- What a description says about itself, before it is checked: the arguments of the summary that
either decoder creates first. -/
structure Head where
  version : Option String
  title : Option String
  description : Value
  isSecure : Bool
  domain : Value
  baseUrl : Value

/-- The outline without services and models. -/
def Head.summary (h : Head) (o : Options) : Except Fault Summary :=
  let description := Reading.text? "description" h.description
  let domain := Reading.text "domain" h.domain
  let baseUrl := Reading.text "base_url" h.baseUrl
  let moduleName := Reading.text? "module_name" o.moduleName
  let serviceName := Reading.text? "service_name" o.serviceName
  let imports := Reading.texts? "imports" o.imports
  Reading.record .summary
    (description.problems ++ domain.problems ++ baseUrl.problems ++ moduleName.problems ++
      serviceName.problems ++ imports.problems)
    { version := h.version
      title := h.title
      description := description.value
      isSecure := h.isSecure
      domain := domain.value
      baseUrl := baseUrl.value
      moduleName := moduleName.value
      serviceName := serviceName.value
      imports := imports.value }

/-! ## Methods -/

/-- What an operation says about itself, before it is checked: the arguments of the method that
`_decode_operation` creates, except for its name. -/
structure Stated where
  path : Value
  verb : Value
  summary : Value
  externalDocs : Value
  isSecure : Bool

/-- The name that an operation gives itself, or one made of its verb and path, with a notice. This
part of `_decode_operation` is the same in both decoders but for `own`, which turns the former
into the form in which it is registered. -/
def nameOf (d : Dialect) (own : String → String) (service : Service) (raw verb path : Value) :
    Trace Value := do
  let stated ← withoutService service raw
  if stated.truthy then
    let name ← stated.asText
    return .str (own name)
  else
    let name ← Name.ofPathValue verb path
    Trace.tell (.named d verb.text path.text name.text)
    return name

/-- The record of a method without parameters and media types. All fields are checked, and the
problems of all of them are reported together. -/
def Stated.method (s : Stated) (name : String) : Except Fault Method :=
  let path := Reading.text "path" s.path
  let verb := Reading.text "method" s.verb
  let summary := Reading.text? "summary" s.summary
  let externalDocs := Reading.mapping? "external_docs" s.externalDocs
  Reading.record .method
    (path.problems ++ verb.problems ++ summary.problems ++ externalDocs.problems)
    { path := path.value
      methodName := name
      verb := verb.value
      isGet := isText "GET" s.verb
      isPost := isText "POST" s.verb
      summary := summary.value
      externalDocs := externalDocs.value
      isSecure := s.isSecure }

/-- A method with its media types. -/
def withMedia (m : Method) (media : Media) : Method :=
  { m with
    accepts := media.accepts
    contentTypes := media.contentTypes
    headers := m.headers ++ media.headers }

end ApiOutline.Decoding
