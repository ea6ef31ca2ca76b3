/-
What the methods of an outline are made of.

A method is made of one operation: it stands where the operation stands, and its parameters are
made one by one of the nodes that the operation leaves, in their order (`Operation.sources`). In a
description by paths these are the nodes of the operation and then those of its path, without the
ones that are left out and with the nodes that references lead to in place of the references. What
is said about the method as a whole, that it has an optional parameter and what is in its groups, is
said of that list and of nothing else (`Operation.Makes`).

An outline has one method for each operation, service by service (`decode_makes`). So whatever
follows from how a method is made holds of every method of every outline.
-/
import ApiOutline.Proofs.Parameter.Derived
import ApiOutline.Proofs.Services

set_option autoImplicit false

namespace ApiOutline

/-- The parameters of all methods. -/
def Summary.parameters (s : Summary) : List Parameter :=
  s.services.flatMap fun service => service.methods.flatMap (·.parameters)

namespace Decoding

open Outcome

/-! ## The nodes of parameters -/

/-- The node that the parameter of an entry is made of, if there is to be one: the entry itself, or
what it refers to. -/
def sourceOf (spec : Value.Entries) (o : Options) (place : String) (node : Value) :
    Except Fault (Option Value) := do
  if ← isLeftOut o node then return none
  else
    match ← node.field "$ref" with
    | .scalar (.str target) => (resolve spec o target place).outcome
    | _ => return some node

/-- The nodes that the parameters of an operation are made of. -/
def Operation.sources (d : Dialect) (spec : Value.Entries) (o : Options) (op : Operation) :
    Except Fault (List Value) := do
  let operation ← op.node.entries
  let operation : Value.Entries := operation
  match d with
  | .listing => ((operation.get "parameters").orElse (.list [])).elements
  | .paths =>
    let nodes ← parameterNodes operation op.shared
    let sources ← nodes.mapM (sourceOf spec o (op.verb.text ++ " " ++ op.path.text))
    return sources.filterMap id

section Source

variable {spec : Value.Entries} {o : Options} {place : String} {node : Value}

/-- An object can say whether it is left out. -/
theorem isLeftOut_of_entries {node : Value} {es : Value.Entries} (h : node.entries = .ok es) :
    ∃ leftOut, isLeftOut o node = .ok leftOut := by
  rw [isLeftOut, Value.field_of_entries h, ok_bind]
  split
  · exact ⟨true, rfl⟩
  · rw [Value.field_of_entries h]
    exact ⟨_, rfl⟩

/-- An entry that is kept and refers to something by a text comes to what the reference is
resolved to. -/
theorem sourceOf_of_reference {target : String} (hkept : isLeftOut o node = .ok false)
    (hreference : node.field "$ref" = .ok (.str target)) :
    sourceOf spec o place node = (resolve spec o target place).outcome := by
  rw [sourceOf, hkept, ok_bind, if_neg Bool.false_ne_true, hreference]
  rfl

/-- An entry that is kept and has no text as its reference is its own node. -/
theorem sourceOf_of_field {reference : Value} (hkept : isLeftOut o node = .ok false)
    (hreference : node.field "$ref" = .ok reference) (hne : ∀ target, reference ≠ .str target) :
    sourceOf spec o place node = .ok (some node) := by
  rw [sourceOf, hkept, ok_bind, if_neg Bool.false_ne_true, hreference, ok_bind]
  split
  · next target => exact absurd rfl (hne target)
  · rfl

/-- **An entry makes the parameter of the node that it has**, if it has one. The notices are left
out, and then both sides ask the same: whether the entry is left out, what it refers to, and what
is found there. -/
theorem pathsParameter_outcome : (pathsParameter spec o place node).outcome = (do
    match ← sourceOf spec o place node with
    | none => return none
    | some source => (parameterOf .paths source).map some) := by
  rw [pathsParameter, sourceOf, Trace.outcome_bind, Trace.outcome_liftM, bind_assoc]
  refine bind_congr fun leftOut => ?_
  cases leftOut with
  | true => rfl
  | false =>
    rw [if_neg Bool.false_ne_true, if_neg Bool.false_ne_true, Trace.outcome_bind,
      Trace.outcome_liftM, bind_assoc]
    refine bind_congr fun reference => ?_
    have hmade : ∀ source : Value, (do
        let p ← (liftM (parameterOf .paths source) : Trace Parameter)
        return some p).outcome = (parameterOf .paths source).map some := by
      intro source
      rw [Trace.outcome_bind, Trace.outcome_liftM]
      rfl
    -- only a text refers to something; an entry with anything else there is the node itself
    cases reference with
    | scalar key =>
      cases key with
      | str target =>
        dsimp only
        rw [Trace.outcome_bind]
        refine bind_congr fun found => ?_
        cases found with
        | none => rfl
        | some shared => exact hmade shared
      | _ => exact hmade node
    | _ => exact hmade node

/-- An entry makes a parameter when it has a node to make it of, and then makes it of that. -/
theorem pathsParameter_eq_ok {made : Option Parameter}
    (h : (pathsParameter spec o place node).outcome = .ok made) :
    ∃ source, sourceOf spec o place node = .ok source ∧
      Option.Rel (fun node p => parameterOf .paths node = .ok p) source made := by
  rw [pathsParameter_outcome] at h
  obtain ⟨source, hsource, h⟩ := bind_eq_ok_iff.1 h
  refine ⟨source, hsource, ?_⟩
  cases source with
  | none =>
    rw [← Except.ok.inj h]
    exact .none
  | some node =>
    obtain ⟨p, hp, rfl⟩ := map_eq_ok_iff.1 h
    exact .some hp

end Source

/-! ## The method of an operation -/

/-- What is stated for a method stays in it; the rest is left open. -/
theorem stated_eq_ok {st : Stated} {name : String} {m : Method} (h : st.method name = .ok m) :
    m.isGet = isText "GET" st.verb ∧ m.isPost = isText "POST" st.verb ∧ m.parameters = [] ∧
      m.hasOptionalParameter = false := by
  obtain ⟨_, rfl⟩ := Reading.record_eq_ok_iff.1 h
  exact ⟨rfl, rfl, rfl, rfl⟩

/-- **The parts of a method**: what is stated, media types, and the parameters of its nodes. In a
listing every entry is a node. For paths there are entries without one, and these make no
parameter, so that nodes and parameters still go side by side. -/
theorem Operation.unnamed_eq_ok {d : Dialect} {spec : Value.Entries} {o : Options} {op : Operation}
    {m : Method} (h : op.unnamed d spec o = .ok m) :
    ∃ (st : Stated) (stated : Method) (media : Media) (nodes : List Value) (ps : List Parameter),
      st.verb = op.verb ∧ st.method "" = .ok stated ∧ op.sources d spec o = .ok nodes ∧
      List.Forall₂ (fun node p => parameterOf d node = .ok p) nodes ps ∧
      m = withParameters (withMedia stated media) ps := by
  cases d with
  | listing =>
    simp only [unnamed, unnamedListed, bind_eq_ok_iff] at h
    obtain ⟨operation, hoperation, stated, hstated, media, _, headers, _, nodes, hnodes, ps, hps,
      h⟩ := h
    have hsources : op.sources .listing spec o = .ok nodes := by
      rw [sources, hoperation, ok_bind]
      exact hnodes
    exact ⟨_, stated, _, nodes, ps, rfl, hstated, hsources, mapM_eq_ok_iff.1 hps,
      (Except.ok.inj h).symm⟩
  | paths =>
    simp only [unnamed, unnamedKeyed, bind_eq_ok_iff] at h
    obtain ⟨operation, hoperation, stated, hstated, media, _, nodes, hnodes, made, hmade, h⟩ := h
    -- of each node a parameter is made, or none if the node has no source
    have hentries := (mapM_eq_ok_iff.1 hmade).imp fun _ _ => pathsParameter_eq_ok
    obtain ⟨found, hfound, hps⟩ := filterMap_of_forall₂ hentries
    have hsources : op.sources .paths spec o = .ok (found.filterMap id) := by
      rw [sources, hoperation, ok_bind]
      dsimp only
      rw [hnodes, ok_bind, hfound]
      rfl
    exact ⟨_, stated, media, _, _, rfl, hstated, hsources, hps, (Except.ok.inj h).symm⟩

/-- What an operation makes: a method that stands where the operation stands and has its verb, with
a parameter for each node that the operation leaves. Whether one of them is optional and what the
groups of the method are is told by the parameters. -/
structure Operation.Makes (d : Dialect) (spec : Value.Entries) (o : Options) (op : Operation)
    (m : Method) : Prop where
  path : Mismatch.text op.path = .ok m.path
  verb : Mismatch.text op.verb = .ok m.verb
  isGet : m.isGet = isText "GET" op.verb
  isPost : m.isPost = isText "POST" op.verb
  parameters : ∃ nodes, op.sources d spec o = .ok nodes ∧
    List.Forall₂ (fun node p => parameterOf d node = .ok p) nodes m.parameters
  hasOptionalParameter : m.hasOptionalParameter = m.parameters.any (!·.required)
  groups : m.grouped = m

/-- **The record that an operation is read into becomes what the operation makes**, once it has a
name and its parameters are in groups: neither of the two changes what the other fields say. -/
theorem Operation.makes_of_unnamed {d : Dialect} {spec : Value.Entries} {o : Options}
    {op : Operation} {unnamed : Method} (h : op.unnamed d spec o = .ok unnamed) (name : String) :
    op.Makes d spec o (unnamed.renamed name).grouped := by
  obtain ⟨hpath, hverb⟩ := Operation.unnamed_reads h
  obtain ⟨st, stated, media, nodes, ps, hst, hstated, hnodes, hps, rfl⟩ := Operation.unnamed_eq_ok h
  obtain ⟨hisGet, hisPost, hnone, hoptional⟩ := stated_eq_ok hstated
  rw [hst] at hisGet hisPost
  -- a stated method has no parameters, so those that are put behind them are all
  have hparameters :
      ((withParameters (withMedia stated media) ps).renamed name).grouped.parameters = ps := by
    change stated.parameters ++ ps = ps
    rw [hnone, List.nil_append]
  constructor
  case path => exact hpath
  case verb => exact hverb
  case isGet => exact hisGet
  case isPost => exact hisPost
  case parameters =>
    rw [hparameters]
    exact ⟨nodes, hnodes, hps⟩
  case hasOptionalParameter =>
    rw [hparameters]
    change (stated.hasOptionalParameter || ps.any (!·.required)) = ps.any (!·.required)
    rw [hoptional, Bool.false_or]
  case groups => rfl

/-- A property of every parameter of a method, together with the node that it is made of. -/
def Operation.EachParameter (d : Dialect) (spec : Value.Entries) (o : Options) (op : Operation)
    (m : Method) (P : Value.Entries → Parameter → Prop) : Prop :=
  ∃ nodes, op.sources d spec o = .ok nodes ∧
    List.Forall₂ (fun node p => ∃ es, node.entries = .ok es ∧ P es p) nodes m.parameters

section EachParameter

variable {d : Dialect} {spec : Value.Entries} {o : Options} {op : Operation} {m : Method}
  {P Q : Value.Entries → Parameter → Prop}

/-- What is said of the parameters of a method and their nodes may be weakened pair by pair. -/
theorem Operation.EachParameter.imp (h : op.EachParameter d spec o m P)
    (hPQ : ∀ es p, P es p → Q es p) : op.EachParameter d spec o m Q := by
  obtain ⟨nodes, hnodes, hps⟩ := h
  refine ⟨nodes, hnodes, hps.imp ?_⟩
  rintro node p ⟨es, hes, hp⟩
  exact ⟨es, hes, hPQ es p hp⟩

/-- Every parameter has its node. -/
theorem Operation.EachParameter.exists_node (h : op.EachParameter d spec o m P) {p : Parameter}
    (hp : p ∈ m.parameters) : ∃ es, P es p := by
  obtain ⟨nodes, _, hps⟩ := h
  obtain ⟨node, _, es, _, hP⟩ := exists_of_forall₂_right hps hp
  exact ⟨es, hP⟩

/-- Every parameter of a method is what is derived for its node, or else what the node says. -/
theorem Operation.Makes.derives (h : op.Makes d spec o m) :
    op.EachParameter d spec o m (Derives d) := by
  obtain ⟨nodes, hnodes, hps⟩ := h.parameters
  exact ⟨nodes, hnodes, hps.imp fun _ _ => parameterOf_eq_ok⟩

end EachParameter

/-! ## The methods of an outline -/

/-- A method for each operation, in order: service by service, and in a service for each operation
that is filed there. -/
def EachMethod (o : Options) (ops : List Operation) (s : Summary)
    (P : Operation → Method → Prop) : Prop :=
  List.Forall₂ (fun key service => List.Forall₂ P (ops.filter (·.key o = key)) service.methods)
    (ops.map (·.key o)).eraseDups s.services

section EachMethod

variable {o : Options} {ops : List Operation} {s : Summary} {P Q : Operation → Method → Prop}

/-- So may what is said of the methods of an outline and their operations. -/
theorem EachMethod.imp (h : EachMethod o ops s P) (hPQ : ∀ op m, P op m → Q op m) :
    EachMethod o ops s Q := by
  refine List.Forall₂.imp (fun key service hservice => ?_) h
  exact hservice.imp hPQ

/-- Only the operations of the description matter. -/
theorem EachMethod.imp_of_mem (h : EachMethod o ops s P) (hPQ : ∀ op ∈ ops, ∀ m, P op m → Q op m) :
    EachMethod o ops s Q := by
  refine List.Forall₂.imp (fun key service hservice => ?_) h
  have hmem : ∀ op ∈ ops.filter (·.key o = key), op ∈ ops :=
    fun op hop => (List.mem_filter.1 hop).1
  have hboth := (List.forall₂_and_left _ _).2 ⟨hmem, hservice⟩
  exact hboth.imp fun op m hm => hPQ op hm.1 m hm.2

/-- Every method has its operation. -/
theorem EachMethod.exists_operation (h : EachMethod o ops s P) {service : Service}
    (hservice : service ∈ s.services) {m : Method} (hm : m ∈ service.methods) :
    ∃ op ∈ ops, P op m := by
  obtain ⟨key, _, hkey⟩ := exists_of_forall₂_right h hservice
  obtain ⟨op, hop, hP⟩ := exists_of_forall₂_right hkey hm
  exact ⟨op, (List.mem_filter.1 hop).1, hP⟩

end EachMethod

/-- Every parameter of an outline has its node. -/
theorem EachMethod.exists_node {d : Dialect} {spec : Value.Entries} {o : Options}
    {ops : List Operation} {s : Summary} {P : Value.Entries → Parameter → Prop}
    (h : EachMethod o ops s fun op m => op.EachParameter d spec o m P) {p : Parameter}
    (hp : p ∈ s.parameters) : ∃ es, P es p := by
  obtain ⟨service, hservice, hp⟩ := List.mem_flatMap.1 hp
  obtain ⟨m, hm, hp⟩ := List.mem_flatMap.1 hp
  obtain ⟨op, _, hop⟩ := h.exists_operation hservice hm
  exact hop.exists_node hp

/-- Each method is that of its operation, under a name of its own and with its parameters in
groups. -/
theorem decode_unnamed {spec : Value} {o : Options} {s : Summary}
    (h : (decode spec o).outcome = .ok s) :
    ∃ d entries ops, spec.entries = .ok entries ∧ operations spec = .ok (d, ops) ∧
      EachMethod o ops s fun op m => ∃ unnamed name, op.unnamed d entries o = .ok unnamed ∧
        m = (unnamed.renamed name).grouped := by
  obtain ⟨d, entries, ops, version, roster, hentries, hops, _, hfiles, hservices⟩ := decode_files h
  refine ⟨d, entries, ops, hentries, hops, ?_⟩
  rw [EachMethod, hservices]
  -- a method in a roster is the unnamed one of its operation, with a name put in
  refine hfiles.forall₂_services fun key service hholds => ?_
  rw [Service.grouped, List.forall₂_map_right_iff]
  refine hholds.methods.imp ?_
  rintro op m ⟨unnamed, hunnamed, hm⟩
  exact ⟨unnamed, m.methodName, hunnamed, congrArg Method.grouped hm⟩

/-- **The methods of an outline are what the operations of the description make.** -/
theorem decode_makes {spec : Value} {o : Options} {s : Summary}
    (h : (decode spec o).outcome = .ok s) :
    ∃ d entries ops, spec.entries = .ok entries ∧ operations spec = .ok (d, ops) ∧
      EachMethod o ops s (fun op m => op.Makes d entries o m) := by
  obtain ⟨d, entries, ops, hentries, hops, hmethods⟩ := decode_unnamed h
  refine ⟨d, entries, ops, hentries, hops, hmethods.imp ?_⟩
  rintro op _ ⟨unnamed, name, hunnamed, rfl⟩
  exact Operation.makes_of_unnamed hunnamed name

/-- A description with parameters in all places, and a model. -/
def readingRoom : Value :=
  .ofFields [("swagger", .str "2.0"), ("info", .object []),
    ("definitions", .ofFields [("Book", .ofFields [("properties", .ofFields [
      ("page_count", .ofFields [("type", .str "integer")])])])]),
    ("parameters", .ofFields [
      ("page", .ofFields [("name", .str "page"), ("in", .str "query")])]),
    ("paths", .ofFields [("/books/\x7bid\x7d", .ofFields [
      ("parameters", .list [
        .ofFields [("name", .str "id"), ("in", .str "path"), ("required", .bool true)]]),
      ("get", .ofFields [("operationId", .str "fetch"), ("parameters", .list [
        .ofFields [("$ref", .str "#/parameters/page")],
        .ofFields [("name", .str "field"), ("in", .str "query"), ("x-name-pattern", .str "f_*")],
        .ofFields [("name", .str "format"), ("in", .str "header"), ("enum", .list [.str "csv"])],
        .ofFields [("name", .str "key"), ("x-exclude-from-bindings", .bool true)]])]),
      ("post", .ofFields [("operationId", .str "store"), ("parameters", .list [
        .ofFields [("name", .str "title"), ("in", .str "formData")],
        .ofFields [("name", .str "book"), ("in", .str "body"), ("required", .bool true)]])])])])]

/-- The reading room is decoded, and not refused. -/
theorem readingRoom_decodes : ∃ s, (decode readingRoom {}).outcome = .ok s :=
  exists_of_isOk (by decide +kernel)

end Decoding

end ApiOutline
