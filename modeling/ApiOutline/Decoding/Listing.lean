/-
Descriptions of version one: a list of resources, each with a path and a list of operations.
-/
import ApiOutline.Decoding.Method
import ApiOutline.Decoding.Models

set_option autoImplicit false

namespace ApiOutline.Decoding

/-- The address of an API that does not state one. -/
def defaultBasePath : String := "http://localhost"

/-- What a listing says about itself. -/
def listingHead (spec : Value.Entries) : Head :=
  let address := (spec.get "basePath").orElse (.str defaultBasePath)
  { version := (spec.get "apiVersion").text?
    title := (spec.get "title").text?
    description := spec.get "description"
    isSecure := !(spec.get "authorizations").isNull
    domain := address
    baseUrl := address }

/-- The verb of an operation, in capitals. It has to be a text or octets. -/
def listingVerb (node : Value) : Except Fault Value := do
  match ← node.entry "method" with
  | .scalar (.bytes octets) => return .bytes (Text.upperOctets octets)
  | verb => return .str (Text.upper (← verb.asText))

/-- One operation of the resource at `path`, filed in the roster: `_decode_operation` of the
decoder for listings, step by step in its order. -/
def listingOperation (spec : Value.Entries) (o : Options) (isSecure : Bool) (path : Value)
    (roster : Roster) (node : Value) : Trace Roster := do
  let (key, service) ← serviceOf o none roster node
  let operation ← node.entries
  let operation : Value.Entries := operation
  let verb ← listingVerb node
  let name ← nameOf .listing id service (operation.get "nickname") verb path
  let name ← register service name
  let method ← Stated.method
    { path, verb
      summary := operation.get "summary"
      externalDocs := .null
      isSecure := isSecure || !(operation.get "authorizations").isNull } name
  let media ← mediaOf spec operation
  let contentType ← contentTypeHeaders media.contentTypes
  let method := withMedia method { media with headers := media.headers ++ contentType }
  let nodes ← ((operation.get "parameters").orElse (.list [])).elements
  let parameters ← nodes.mapM fun node => Trace.lift (parameterOf .listing node)
  return roster.put key (withMethod service (withParameters method parameters))

/-- The operations of one resource: the body of the outer loop in `decode`. -/
def listingResource (spec : Value.Entries) (o : Options) (isSecure : Bool) (roster : Roster)
    (resource : Value) : Trace Roster := do
  let operations ← (do (← resource.entry "operations").elements : Except Fault (List Value))
  operations.foldlM (fun roster node => do
    let path ← resource.entry "path"
    listingOperation spec o isSecure path roster node) roster

/-- The outline of a listing, its parameters not yet in groups: `decode` of the decoder for
listings. -/
def decodeListing (spec : Value.Entries) (o : Options) : Trace Summary := do
  Value.checkTexts [spec.get "apiVersion", spec.get "title"]
  let head := listingHead spec
  let summary ← head.summary o
  let resources ← (Value.object spec).entry "apis"
  let count ← resources.size
  Trace.tell (.started .listing count)
  let resources ← resources.elements
  let roster ← resources.foldlM (listingResource spec o head.isSecure) []
  let models ← modelsOf false none (spec.get "models")
  return { summary with services := roster.map (·.2), models }

end ApiOutline.Decoding
