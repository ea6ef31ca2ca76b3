/-
Descriptions of version two: an object of paths, each an object of verbs.

A path may state parameters for all of its operations, and parameters may be references to shared
ones. Both are resolved here, operation by operation.
-/
import ApiOutline.Decoding.Method
import ApiOutline.Decoding.Models

set_option autoImplicit false

namespace ApiOutline.Decoding

/-- The keys of a path that are operations, in capitals: the list `HTTP_METHODS`. -/
def httpVerbs : List String :=
  ["GET", "POST", "PUT", "DELETE", "PATCH", "COPY", "HEAD", "OPTIONS", "LINK", "UNLINK", "PURGE",
    "LOCK", "UNLOCK", "PROPFIND"]

/-! ## The head -/

/-- The scheme to use where the host states none: the first one that the description lists, else
that of the caller, else the default. -/
def schemeOf (spec : Value.Entries) (o : Options) : Except Fault Value := do
  let schemes := spec.get "schemes"
  let first ← if schemes.truthy then schemes.first else .ok schemes
  return first.orElse (o.schema.orElse (.str "http"))

/-- Scheme and host, as `_domain` joins them. The host may come with a scheme of its own. -/
def domainOf (spec : Value.Entries) (o : Options) : Except Fault String := do
  let host ← ((spec.get "host").orElse (o.host.orElse (.str "localhost"))).asText
  match Text.cutAt? "://".toList host.toList with
  | some (scheme@(_ :: _), rest) =>
    return String.ofList scheme ++ "://" ++ String.ofList rest
  | _ =>
    let scheme ← schemeOf spec o
    scheme.checkText
    return scheme.text ++ "://" ++ host

/-- Domain and base path, without slashes at the end; nothing, if no base path is stated. -/
def baseUrlOf (spec : Value.Entries) (domain : String) : Except Fault String := do
  let basePath := spec.get "basePath"
  if basePath.truthy then
    let path ← basePath.asText
    return domain ++ String.ofList (Text.dropEnd (· == '/') path.toList)
  else return ""

/-- What a description says about itself. -/
def pathsHead (spec : Value.Entries) (o : Options) : Except Fault Head := do
  let info ← (Value.object spec).entry "info"
  let version ← info.field "version"
  version.checkText
  let domain ← domainOf spec o
  let title ← info.field "title"
  title.checkText
  let description ← info.field "description"
  let baseUrl ← baseUrlOf spec domain
  return {
    version := version.text?
    title := title.text?
    description
    isSecure := !(spec.get "securityDefinitions").isNull
    domain := .str domain
    baseUrl := .str baseUrl }

/-! ## Keys of a path -/

/-- The spelling of a key that is a text or at least octets, which spell nothing of interest. -/
def spelling : Scalar → Except Fault (Option String)
  | .str s => .ok (some s)
  | .bytes _ => .ok none
  | _ => .error .noSuchOperation

/-- The parameters for all operations of a path, as `_global_parameters` finds them: what the last
key spelled `parameters`, in any case, holds. -/
def sharedParameters (item : Value.Entries) : Except Fault Value :=
  item.foldlM (fun found (key, v) => do
    let name ← spelling key
    return if name.map Text.lower = some "parameters" then v.orElse (.list []) else found)
    (.list [])

/-- The verb that a key of a path is, if it is one. Only what can be turned into capitals is
asked, so a number as a key ends the work. -/
def verbOf (key : Scalar) : Except Fault (Option String) := do
  let name ← spelling key
  return (name.map Text.upper).filter httpVerbs.contains

/-! ## References -/

/-- The name under which a reference looks for a parameter: the reference itself, if it has no
slashes, else its third segment, if there is one, else no name at all. This is the first half of
`_resolve_reference`. -/
def referenceName (target : String) : Scalar :=
  match Text.splitAt '/' target.toList with
  | [name] => .str (String.ofList name)
  | _ :: _ :: name :: _ => .str (String.ofList name)
  | _ => .null

/-- The node that a reference leads to, as `_resolve_reference` finds it. One that leads nowhere
is passed over with a warning, or refused, if the caller wants that. -/
def resolve (spec : Value.Entries) (o : Options) (target place : String) :
    Trace (Option Value) := do
  let shared ← ((spec.get "parameters").orElse (.object [])).fieldAt (referenceName target)
  if shared.isNull then
    if o.strictRefs.truthy then
      Trace.fail (.refused (.unresolvedReference (.str target) (.str place)))
    else
      Trace.tell (.skipped target place)
      return none
  else return some shared

/-! ## Operations -/

/-- Is a node left out of the outline? It may say so, or be for a proxy to fill in. -/
def isLeftOut (o : Options) (node : Value) : Except Fault Bool := do
  match ← node.field "x-exclude-from-bindings" with
  | .scalar (.bool true) => return true
  | _ => return (← node.field "x-proxy-header").truthy && !o.proxyHeaders.truthy

/-- The parameter of a node or of what it refers to, if there is to be one: one turn of the loop
over parameters in `_decode_operation`. -/
def pathsParameter (spec : Value.Entries) (o : Options) (place : String) (node : Value) :
    Trace (Option Parameter) := do
  if ← isLeftOut o node then return none
  else
    match ← (node.field "$ref" : Except Fault Value) with
    | .scalar (.str target) =>
      match ← resolve spec o target place with
      | none => return none
      | some shared =>
        let p ← parameterOf .paths shared
        return some p
    | _ =>
      let p ← parameterOf .paths node
      return some p

/-- The nodes of an operation's parameters: its own, if they are a list, then those of its path. -/
def parameterNodes (operation : Value.Entries) (shared : Value) : Except Fault (List Value) := do
  let own := match (operation.get "parameters").opened with
    | .list nodes => nodes
    | _ => []
  let others ← shared.elements
  return own ++ others

/-- One operation, filed in the roster: `_decode_operation` of the decoder for paths, step by step
in its order, so that of several things that are wrong the same one is found first. -/
def pathsOperation (spec : Value.Entries) (o : Options) (version : Option String) (path : Scalar)
    (shared : Value) (verb : String) (roster : Roster) (node : Value) : Trace Roster := do
  let (key, service) ← serviceOf o version roster node
  let operation ← node.entries
  let operation : Value.Entries := operation
  let path : Value := .scalar path
  let name ← nameOf .paths Name.normalize service (operation.get "operationId") (.str verb) path
  let name ← register service name
  let method ← Stated.method
    { path, verb := .str verb
      summary := (operation.get "description").orElse (operation.get "summary")
      externalDocs := operation.get "externalDocs"
      isSecure := !(spec.get "security").isNull || !(operation.get "security").isNull } name
  let media ← mediaOf spec operation
  let nodes ← parameterNodes operation shared
  let parameters ← nodes.mapM (pathsParameter spec o (verb ++ " " ++ path.text))
  let method := withParameters (withMedia method media) (parameters.filterMap id)
  return roster.put key (withMethod service method)

/-- The operations of one path: the body of the outer loop in `decode`, with the inner loop over
the keys of the path. -/
def pathsItem (spec : Value.Entries) (o : Options) (version : Option String) (roster : Roster)
    (entry : Scalar × Value) : Trace Roster := do
  let (path, item) := entry
  let item ← item.entries
  let shared ← sharedParameters item
  item.foldlM (fun roster (key, node) => do
    match ← (verbOf key : Except Fault (Option String)) with
    | none => return roster
    | some verb => pathsOperation spec o version path shared verb roster node) roster

/-- The outline of a description by paths, its parameters not yet in groups: `decode` of the
decoder for paths. -/
def decodePaths (spec : Value.Entries) (o : Options) : Trace Summary := do
  let head ← pathsHead spec o
  let summary ← head.summary o
  let paths := (spec.get "paths").orElse (.object [])
  let count ← paths.size
  Trace.tell (.started .paths count)
  let items ← paths.entries
  let roster ← items.foldlM (pathsItem spec o head.version) []
  let models ← modelsOf true head.version (spec.get "definitions")
  return { summary with services := roster.map (·.2), models }

end ApiOutline.Decoding
