/-
The operations of a description, in the order in which they are written.

A listing has resources with lists of operations, a description by paths has an object of paths
with an object of verbs in each. Here both come down to one list of operations, each with where
it stands, its verb in capitals and what is said about it, and decoding comes down to one fold
over that list. The decoders never build the list: they walk through the document
with the roster in hand; that the two agree is shown in the next module.

What is in the list is found in the description, and `Operation.FoundIn` says where.

What one operation does to the roster is `Roster.add`. It is the same for both dialects but for
three things: where an operation says its name, which version a service has, and what goes into a
method besides its name, which is `Operation.unnamed`. The last needs neither the roster nor the
service, and that is what later makes it possible to speak of a method apart from its place.
-/
import ApiOutline.Decode
import ApiOutline.Proofs.Outcome
import ApiOutline.Proofs.Reading

set_option autoImplicit false

namespace ApiOutline

/-- The field in which an operation says how its method is to be called. -/
def Dialect.nameField : Dialect → String
  | .listing => "nickname"
  | .paths => "operationId"

namespace Decoding

open Outcome

/-- An operation of a description. -/
structure Operation where
  /-- The path under which it stands. -/
  path : Value
  /-- Its verb, in capitals. -/
  verb : Value
  /-- The parameters that are stated for its path as a whole. -/
  shared : Value
  /-- What is said about it. -/
  node : Value

/-! ## Collecting them -/

/-- The operation that one entry of a path is, if its key is a verb. A key in octets is none. -/
def operationAt (path : Scalar) (shared : Value) :
    Scalar × Value → Except Fault (List Operation)
  | (.str key, node) =>
    .ok (if Text.upper key ∈ httpVerbs then [⟨.scalar path, .str (Text.upper key), shared, node⟩]
      else [])
  | (.bytes _, _) => .ok []
  | _ => .error .noSuchOperation

/-- The operations of one path, by key. -/
def itemOperations (entry : Scalar × Value) : Except Fault (List Operation) := do
  let item ← entry.2.entries
  let shared ← sharedParameters item
  collect (operationAt entry.1 shared) item

/-- The operation that an item of a resource is. -/
def listedOperation (resource node : Value) : Except Fault (List Operation) := do
  let path ← resource.entry "path"
  let verb ← listingVerb node
  return [⟨path, verb, .list [], node⟩]

/-- The operations of one resource, as listed. -/
def resourceOperations (resource : Value) : Except Fault (List Operation) := do
  let nodes ← resource.entry "operations"
  let nodes ← nodes.elements
  collect (listedOperation resource) nodes

/-- The operations of a description in a dialect. -/
def operationsAs (d : Dialect) (spec : Value.Entries) : Except Fault (List Operation) :=
  match d with
  | .listing => do
    let resources ← (Value.object spec).entry "apis"
    let resources ← resources.elements
    collect resourceOperations resources
  | .paths => do
    let items ← ((spec.get "paths").orElse (.object [])).entries
    collect itemOperations items

/-- The dialect of a description and its operations, in document order. -/
def operations (spec : Value) : Except Fault (Dialect × List Operation) := do
  let d ← (select spec).outcome
  let entries ← spec.entries
  let ops ← operationsAs d entries
  return (d, ops)

/-! ## What one of them does -/

/-- The version that the services of a description have. -/
def serviceVersion (d : Dialect) (spec : Value.Entries) : Except Fault (Option String) :=
  match d with
  | .listing => .ok none
  | .paths => do
    let info ← (Value.object spec).entry "info"
    let version ← info.field "version"
    return version.text?

namespace Operation

/-- The identifier that an operation gets in a service while it is free. -/
def base (d : Dialect) (service : Service) (op : Operation) : Except Fault String := do
  let raw ← op.node.field d.nameField
  let name ← (nameOf d id service raw op.verb op.path).outcome
  Name.identifierOfValue name

/-- The method of an operation of a listing, but for its name. -/
def unnamedListed (spec : Value.Entries) (op : Operation) : Except Fault Method := do
  let operation ← op.node.entries
  let operation : Value.Entries := operation
  let method ← Stated.method
    { path := op.path
      verb := op.verb
      summary := operation.get "summary"
      externalDocs := .null
      isSecure := (listingHead spec).isSecure || !(operation.get "authorizations").isNull } ""
  let media ← mediaOf spec operation
  let contentType ← contentTypeHeaders media.contentTypes
  let nodes ← ((operation.get "parameters").orElse (.list [])).elements
  let parameters ← nodes.mapM (parameterOf .listing)
  return withParameters (withMedia method { media with headers := media.headers ++ contentType })
    parameters

/-- The method of an operation of a path, but for its name. -/
def unnamedKeyed (spec : Value.Entries) (o : Options) (op : Operation) : Except Fault Method := do
  let operation ← op.node.entries
  let operation : Value.Entries := operation
  let method ← Stated.method
    { path := op.path
      verb := op.verb
      summary := (operation.get "description").orElse (operation.get "summary")
      externalDocs := operation.get "externalDocs"
      isSecure := !(spec.get "security").isNull || !(operation.get "security").isNull } ""
  let media ← mediaOf spec operation
  let nodes ← parameterNodes operation op.shared
  let place := op.verb.text ++ " " ++ op.path.text
  let parameters ← nodes.mapM fun node => (pathsParameter spec o place node).outcome
  return withParameters (withMedia method media) (parameters.filterMap id)

/-- The method of an operation, but for its name: nothing in it depends on the operations before
it. -/
def unnamed (d : Dialect) (spec : Value.Entries) (o : Options) (op : Operation) :
    Except Fault Method :=
  match d with
  | .listing => op.unnamedListed spec
  | .paths => op.unnamedKeyed spec o

end Operation

end Decoding

/-- The method under another name. -/
def Method.renamed (m : Method) (name : String) : Method :=
  { m with methodName := name }

namespace Decoding

open Outcome

/-- The roster with one more operation filed in it. -/
def Roster.add (d : Dialect) (spec : Value.Entries) (o : Options) (version : Option String)
    (roster : Roster) (op : Operation) : Except Fault Roster := do
  let filed ← serviceOf o version roster op.node
  let base ← op.base d filed.2
  let method ← op.unnamed d spec o
  let name := Name.freeAmong filed.2.methodNames base
  return roster.put filed.1 (withMethod filed.2 (method.renamed name))

/-! ### Where they are found -/

/-- Where an operation of a description is found: among the operations of a resource, or under a key
of a path that is a verb. -/
inductive Operation.FoundIn (spec : Value.Entries) : Dialect → Operation → Prop where
  | listed {apis listed resource path verb node : Value} {resources nodes : List Value}
      (hapis : (Value.object spec).entry "apis" = .ok apis)
      (hresources : apis.elements = .ok resources) (hresource : resource ∈ resources)
      (hlisted : resource.entry "operations" = .ok listed)
      (hnodes : listed.elements = .ok nodes) (hnode : node ∈ nodes)
      (hpath : resource.entry "path" = .ok path) (hverb : listingVerb node = .ok verb) :
      FoundIn spec .listing ⟨path, verb, .list [], node⟩
  | keyed {items item : Value.Entries} {e : Scalar × Value} {shared node : Value} {key : String}
      (hitems : ((spec.get "paths").orElse (.object [])).entries = .ok items) (he : e ∈ items)
      (hitem : e.2.entries = .ok item) (hshared : sharedParameters item = .ok shared)
      (hnode : (.str key, node) ∈ item) (hverb : Text.upper key ∈ httpVerbs) :
      FoundIn spec .paths ⟨.scalar e.1, .str (Text.upper key), shared, node⟩

/-- An operation of a path is what stands under a key that is a verb. -/
theorem exists_of_operationAt {path : Scalar} {shared : Value} {e : Scalar × Value}
    {found : List Operation} (h : operationAt path shared e = .ok found) {op : Operation}
    (hop : op ∈ found) : ∃ key node, e = (.str key, node) ∧ Text.upper key ∈ httpVerbs ∧
      op = ⟨.scalar path, .str (Text.upper key), shared, node⟩ := by
  unfold operationAt at h
  split at h
  · next key node =>
    rw [← Except.ok.inj h] at hop
    split at hop
    · next hverb => exact ⟨key, node, rfl, hverb, List.mem_singleton.1 hop⟩
    · exact absurd hop List.not_mem_nil
  · rw [← Except.ok.inj h] at hop
    exact absurd hop List.not_mem_nil
  · exact nomatch h

/-- **Every operation of a description is found in it.** What was collected is traced back through
the lists it comes from, in a listing to a resource and a node, in a description by paths to a
path and a key. -/
theorem foundIn_of_operationsAs {d : Dialect} {spec : Value.Entries} {ops : List Operation}
    (h : operationsAs d spec = .ok ops) {op : Operation} (hop : op ∈ ops) : op.FoundIn spec d := by
  cases d with
  | listing =>
    simp only [operationsAs, bind_eq_ok_iff] at h
    obtain ⟨apis, hapis, resources, hresources, h⟩ := h
    obtain ⟨resource, hresource, own, hown, hop⟩ := exists_of_mem_collect h hop
    simp only [resourceOperations, bind_eq_ok_iff] at hown
    obtain ⟨listed, hlisted, nodes, hnodes, hown⟩ := hown
    obtain ⟨node, hnode, found, hfound, hop⟩ := exists_of_mem_collect hown hop
    simp only [listedOperation, bind_eq_ok_iff] at hfound
    obtain ⟨path, hpath, verb, hverb, hfound⟩ := hfound
    rw [← Except.ok.inj hfound] at hop
    obtain rfl := List.mem_singleton.1 hop
    exact .listed hapis hresources hresource hlisted hnodes hnode hpath hverb
  | paths =>
    simp only [operationsAs, bind_eq_ok_iff] at h
    obtain ⟨items, hitems, h⟩ := h
    obtain ⟨e, he, own, hown, hop⟩ := exists_of_mem_collect h hop
    simp only [itemOperations, bind_eq_ok_iff] at hown
    obtain ⟨item, hitem, shared, hshared, hown⟩ := hown
    obtain ⟨f, hnode, found, hfound, hop⟩ := exists_of_mem_collect hown hop
    obtain ⟨key, node, rfl, hverb, rfl⟩ := exists_of_operationAt hfound hop
    exact .keyed hitems he hitem hshared hnode hverb

theorem operations_eq_ok_iff {spec : Value} {d : Dialect} {ops : List Operation} :
    operations spec = .ok (d, ops) ↔ ∃ entries, (select spec).outcome = .ok d ∧
      spec.entries = .ok entries ∧ operationsAs d entries = .ok ops := by
  simp only [operations, bind_eq_ok_iff]
  constructor
  · rintro ⟨d', hd, entries, hentries, ops', hops, hsame⟩
    obtain ⟨rfl, rfl⟩ := Prod.mk.inj (Except.ok.inj hsame)
    exact ⟨entries, hd, hentries, hops⟩
  · rintro ⟨entries, hd, hentries, hops⟩
    exact ⟨d, hd, entries, hentries, ops, hops, rfl⟩

/-! ## One operation of a dialect is one addition -/

/-- A name is put into a method last or first, it makes no difference. -/
theorem method_eq_map_renamed (s : Stated) (name : String) :
    s.method name = (s.method "").map (·.renamed name) := by
  rw [Stated.method, Stated.method, Reading.record_map]
  rfl

/-- Registering a name tells of a collision, but comes to the free name in any case. -/
theorem register_outcome (service : Service) (name : Value) :
    (register service name).outcome =
      (Name.identifierOfValue name).map (Name.freeAmong service.methodNames) := by
  rw [register, Trace.outcome_bind, Trace.outcome_liftM]
  cases Name.identifierOfValue name with
  | error e => rfl
  | ok identifier =>
    rw [ok_bind]
    dsimp only
    split
    · rw [Trace.outcome_bind, Trace.outcome_tell]
      rfl
    · rfl

end Decoding

end ApiOutline
