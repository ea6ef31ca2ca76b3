/-
Listings written as descriptions by paths.

A listing that says no more than which operations there are, what they are called and what they
take can be said in the other dialect as well. `Value.asPaths` is how: a resource becomes a path, an
operation an entry under its verb, and what an operation or a parameter says is carried over under
the name that the other dialect has for it. Which listings these are is `PlainListing`. They may
hold anything else besides, in operations and in parameters, but a parameter must not say what only
the other dialect listens to, and paths and verbs have to be different, for they become keys.

Nothing is asked of the values that are only carried along, such as names, tags and summaries. Only
the types of requests have to be texts, for one dialect puts them into a header and the other does
not look at them.

The outline changes with the description where one dialect says what the other has no words for.
These are few places, and `Summary.asPaths` is what becomes of them.
-/
import ApiOutline.Decoding.Paths

set_option autoImplicit false

namespace ApiOutline

/-! ## The translation -/

namespace Value

/-- The text in an entry, empty if there is none. -/
def textIn (name : String) (v : Value) : String :=
  match v.entry name with
  | .ok (.str s) => s
  | _ => ""

/-- The items in an entry, none if it is no list. -/
def itemsIn (name : String) (v : Value) : List Value :=
  match v.entry name with
  | .ok items =>
    match items.opened with
    | .list xs => xs
    | _ => []
  | .error _ => []

/-- A place where a parameter travels, in the words of the other dialect. -/
def placeAsPaths : Value → Value
  | .str "form" => .str "formData"
  | place => place

/-- What a parameter says, in the words of the other dialect. -/
def parameterEntryAsPaths : Scalar × Value → Scalar × Value
  | (.str "paramType", place) => (.str "in", placeAsPaths place)
  | e => e

/-- A parameter in the other dialect. -/
def parameterAsPaths (node : Value) : Value :=
  match node.opened with
  | .object es => .object (es.map parameterEntryAsPaths)
  | _ => node

/-- Parameters in the other dialect. -/
def parametersAsPaths (nodes : Value) : Value :=
  match nodes.opened with
  | .list xs => .list (xs.map parameterAsPaths)
  | _ => nodes

/-- What an operation says, in the words of the other dialect, if it is carried over. -/
def operationEntryAsPaths : Scalar × Value → Option (Scalar × Value)
  | (.str "nickname", name) => some (.str "operationId", name)
  | (.str "parameters", nodes) => some (.str "parameters", parametersAsPaths nodes)
  | (.str "tags", tags) => some (.str "tags", tags)
  | (.str "summary", summary) => some (.str "summary", summary)
  | (.str "produces", types) => some (.str "produces", types)
  | (.str "consumes", types) => some (.str "consumes", types)
  | _ => none

/-- An operation in the other dialect. -/
def operationAsPaths (node : Value) : Value :=
  match node.opened with
  | .object es => .object (es.filterMap operationEntryAsPaths)
  | _ => node

/-- The path that a resource becomes, with its operations by verb. -/
def resourceAsPaths (resource : Value) : Scalar × Value :=
  (.str (textIn "path" resource), .object (ofEntries
    ((itemsIn "operations" resource).map fun node =>
      (.str (textIn "method" node), operationAsPaths node))))

/-- Is a key one under which a document has media types? -/
def isMedia (key : Scalar) : Bool :=
  key == .str "produces" || key == .str "consumes"

/-- What a listing says, in the words of the other dialect. -/
def entriesAsPaths (es : Entries) : Entries :=
  [(.str "swagger", .str "2.0"), (.str "info", .object [])] ++
    es.filter (isMedia ·.1) ++
    [(.str "paths", .object (ofEntries ((itemsIn "apis" (.object es)).map resourceAsPaths)))]

/-- A listing in the other dialect. -/
def asPaths : Value → Value
  | .object es => .object (entriesAsPaths es)
  | v => v

end Value

/-! ## The outline of a translation -/

/-- The parameter without what one dialect says about its place. -/
def Parameter.withoutPlace (p : Parameter) : Parameter :=
  { p with extras := p.extras.filter (·.1 != "paramType") }

/-- The method as it is in the other dialect: nothing says that it is secured, no header announces
the types of requests, and the places of parameters are not said twice. -/
def Method.asPaths (m : Method) : Method :=
  { m with
    isSecure := false
    headers := m.headers.filter (·.name != "Content-Type")
    parameters := m.parameters.map Parameter.withoutPlace
    pathParams := m.pathParams.map Parameter.withoutPlace
    queryParams := m.queryParams.map Parameter.withoutPlace
    headerParams := m.headerParams.map Parameter.withoutPlace
    formParams := m.formParams.map Parameter.withoutPlace
    requiredParams := m.requiredParams.map Parameter.withoutPlace
    optionalParams := m.optionalParams.map Parameter.withoutPlace
    bodyParam := m.bodyParam.map Parameter.withoutPlace }

/-- The service with its methods as they are in the other dialect. -/
def Service.asPaths (s : Service) : Service :=
  { s with methods := s.methods.map Method.asPaths }

/-- The outline in the other dialect, where the domain is not a default but comes from outside, and
where there is no base path. -/
def Summary.asPaths (domain : String) (s : Summary) : Summary :=
  { s with domain, baseUrl := "", services := s.services.map Service.asPaths }

/-! ## The listings it is for -/

open Value

/-- Nothing, or a list of texts. -/
def TextList (v : Value) : Prop :=
  v = .null ∨ ∃ texts : List String, v.opened = .list (texts.map .str)

/-- A parameter that travels in one of the five places and does not say what only the other dialect
listens to. -/
def PlainParameter (node : Value) : Prop :=
  ∃ es : Value.Entries, node.entries = .ok es ∧
    (∃ place ∈ ["body", "path", "query", "header", "form"],
      lookup (.str "paramType") es = some (.str place)) ∧
    ∀ name ∈ ["in", "$ref", "x-exclude-from-bindings", "x-proxy-header"],
      lookup (.str name) es = none

/-- An operation with a verb, with texts for the types of requests and with plain parameters, as far
as it states any. -/
def PlainOperation (node : Value) : Prop :=
  ∃ es : Value.Entries, node.entries = .ok es ∧
    (∃ verb, lookup (.str "method") es = some (.str verb) ∧
      Text.upper verb ∈ Decoding.httpVerbs) ∧
    TextList (es.get "consumes") ∧
    (es.get "parameters" = .null ∨ ∃ nodes, (es.get "parameters").opened = .list nodes ∧
      ∀ parameter ∈ nodes, PlainParameter parameter)

/-- A resource with a path and a list of plain operations, each with a verb of its own. -/
def PlainResource (resource : Value) : Prop :=
  ∃ path operations nodes, resource.entry "path" = .ok (.str path) ∧
    resource.entry "operations" = .ok operations ∧ operations.opened = .list nodes ∧
    (∀ node ∈ nodes, PlainOperation node) ∧
    (nodes.map fun node => Text.upper (textIn "method" node)).Nodup

/-- A listing of plain resources, each with a path of its own, and nothing else but media types for
all of them. -/
structure PlainListing (es : Value.Entries) : Prop where
  version : es.get "swaggerVersion" = .str "1.2"
  resources : ∃ apis resources, lookup (.str "apis") es = some apis ∧
    apis.opened = .list resources ∧ (∀ resource ∈ resources, PlainResource resource) ∧
    (resources.map (textIn "path")).Nodup
  consumes : TextList (es.get "consumes")
  others : ∀ e ∈ es,
    e.1 ∈ [Scalar.str "swaggerVersion", .str "apis", .str "produces", .str "consumes"]

end ApiOutline
