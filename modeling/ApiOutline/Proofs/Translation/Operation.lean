/-
An operation in both dialects.

Filing an operation asks for the same things in both dialects, only under other names. What the
translation carries over is found under the new name, and what it leaves behind is not found at all
(`Carried`). So a translated operation gets the same tag and the same base for its name, and the
method made of it is the translated method. Names are found free among the names of methods, which
a translation does not touch; therefore an operation that is added to a translated roster gives the
translated roster (`add_asPaths`), and that is all that a run needs.
-/
import ApiOutline.Proofs.Frame
import ApiOutline.Proofs.Media.Types
import ApiOutline.Proofs.Translation.Parameter

set_option autoImplicit false

namespace ApiOutline

open Value

/-! ## What it says -/

/-- What is carried over, under which name and under which new one. -/
def carriedNames : List (String × String) :=
  [("nickname", "operationId"), ("parameters", "parameters"), ("tags", "tags"),
    ("summary", "summary"), ("produces", "produces"), ("consumes", "consumes")]

/-- What is carried over stands under one of the carried names, and is found under the new name
that goes with it. -/
theorem operationEntryAsPaths_name {e e' : Scalar × Value}
    (h : operationEntryAsPaths e = some e') :
    ∃ names ∈ carriedNames, e.1 = .str names.1 ∧ e'.1 = .str names.2 := by
  rw [operationEntryAsPaths.eq_def] at h
  split at h
  · exact ⟨("nickname", "operationId"), by decide, rfl, by rw [← Option.some.inj h]⟩
  · exact ⟨("parameters", "parameters"), by decide, rfl, by rw [← Option.some.inj h]⟩
  · exact ⟨("tags", "tags"), by decide, rfl, by rw [← Option.some.inj h]⟩
  · exact ⟨("summary", "summary"), by decide, rfl, by rw [← Option.some.inj h]⟩
  · exact ⟨("produces", "produces"), by decide, rfl, by rw [← Option.some.inj h]⟩
  · exact ⟨("consumes", "consumes"), by decide, rfl, by rw [← Option.some.inj h]⟩
  · exact nomatch h

/-- What is found under a new name. -/
theorem get_carried {name other : String} {g : Value → Value}
    (hname : ∀ v, operationEntryAsPaths (.str name, v) = some (.str other, g v))
    (hnull : g .null = .null) (hother : ∀ names ∈ carriedNames, names.2 = other → names.1 = name)
    (es : Value.Entries) :
    Entries.get (es.filterMap operationEntryAsPaths) other = g (es.get name) := by
  have hlookup : lookup (.str other) (es.filterMap operationEntryAsPaths) =
      (lookup (.str name) es).map g := by
    -- nothing else is carried over to the new name
    refine lookup_filterMap hname fun e _ e' hsome hkey => ?_
    obtain ⟨names, hnames, hfrom, hto⟩ := operationEntryAsPaths_name hsome
    rw [hfrom, hother names hnames (Scalar.str.inj (hto.symm.trans hkey))]
  rw [Entries.get, Entries.get, hlookup]
  cases lookup (.str name) es with
  | none => exact hnull.symm
  | some v => rfl

/-- What is found under a name that nothing is carried over to. -/
theorem get_left {other : String} (hother : ∀ names ∈ carriedNames, names.2 ≠ other)
    (es : Value.Entries) :
    Entries.get (es.filterMap operationEntryAsPaths) other = .null := by
  rw [Entries.get, lookup_eq_none_of_not_mem]
  · rfl
  · intro e' he' hkey
    obtain ⟨e, _, hsome⟩ := List.mem_filterMap.1 he'
    obtain ⟨names, hnames, _, hto⟩ := operationEntryAsPaths_name hsome
    exact hother names hnames (Scalar.str.inj (hto.symm.trans hkey))

/-- The second operation says in one dialect what the first says in the other. -/
structure Carried (a b : Value.Entries) : Prop where
  name : b.get "operationId" = a.get "nickname"
  tags : b.get "tags" = a.get "tags"
  summary : b.get "summary" = a.get "summary"
  produces : b.get "produces" = a.get "produces"
  consumes : b.get "consumes" = a.get "consumes"
  parameters : b.get "parameters" = parametersAsPaths (a.get "parameters")
  description : b.get "description" = .null
  externalDocs : b.get "externalDocs" = .null
  security : b.get "security" = .null

/-- **A translated operation says what the operation says**: each field under its new name, and
nothing under the names that only the other dialect has. -/
theorem carried_asPaths (es : Value.Entries) :
    Carried es (es.filterMap operationEntryAsPaths) where
  name := get_carried (g := id) (fun _ => rfl) rfl (by decide) es
  tags := get_carried (g := id) (fun _ => rfl) rfl (by decide) es
  summary := get_carried (g := id) (fun _ => rfl) rfl (by decide) es
  produces := get_carried (g := id) (fun _ => rfl) rfl (by decide) es
  consumes := get_carried (g := id) (fun _ => rfl) rfl (by decide) es
  parameters := get_carried (fun _ => rfl) rfl (by decide) es
  description := get_left (by decide) es
  externalDocs := get_left (by decide) es
  security := get_left (by decide) es

/-- A translated object is an object, of the entries that are carried over. -/
theorem entries_operationAsPaths {node : Value} {es : Value.Entries} (h : node.entries = .ok es) :
    node.operationAsPaths.entries = .ok (es.filterMap operationEntryAsPaths) := by
  rw [operationAsPaths, entries_eq_ok_iff.1 h]
  rfl

namespace Decoding

open Outcome

/-! ## The record of its method -/

/-- Securing a method is all that is in a record without media types and parameters to translate. -/
theorem method_asPaths (s : Stated) (name : String) :
    Stated.method { s with isSecure := false } name = (s.method name).map Method.asPaths := by
  rw [Stated.method, Stated.method, Reading.record_map]
  rfl

/-! ## Its media types -/

/-- All headers for types of answers have one name, and there is at most one of them. -/
theorem name_of_mem_acceptHeaders {types : List Value} {h : HeaderSpec}
    (hmem : h ∈ acceptHeaders types) : h.name = "Accept" := by
  rw [acceptHeaders] at hmem
  split at hmem
  · exact absurd hmem List.not_mem_nil
  · rw [List.mem_singleton.1 hmem]

/-- So have those for types of requests, which a translation leaves out by this name. -/
theorem name_of_mem_contentTypeHeader {types : List String} {h : HeaderSpec}
    (hmem : h ∈ contentTypeHeader types) : h.name = "Content-Type" := by
  rw [contentTypeHeader] at hmem
  split at hmem
  · exact absurd hmem List.not_mem_nil
  · rw [List.mem_singleton.1 hmem]

/-- The headers of an operation in the one dialect that announces both. -/
theorem headers_of_mediaOf {spec operation : Value.Entries}
    (hspec : TextList (spec.get "consumes")) (hown : TextList (operation.get "consumes"))
    {media : Media} (h : mediaOf spec operation = .ok media) :
    (∀ h ∈ media.headers, h.name = "Accept") ∧
      ∃ headers, contentTypeHeaders media.contentTypes = .ok headers ∧
        ∀ h ∈ headers, h.name = "Content-Type" := by
  simp only [mediaOf, bind_eq_ok_iff] at h
  obtain ⟨answers, _, -, -, requests, hrequests, hmedia⟩ := h
  obtain ⟨_, htypes, hsent⟩ := requestTypes_eq hspec hown
  obtain rfl := Except.ok.inj (htypes.symm.trans hrequests)
  rw [← Except.ok.inj hmedia, hsent]
  exact ⟨fun h hmem => name_of_mem_acceptHeaders hmem, contentTypeHeader (sentTypes spec operation),
    contentTypeHeaders_eq _, fun h hmem => name_of_mem_contentTypeHeader hmem⟩

/-- The header for the types of requests is the only one that a translation takes away. -/
theorem headers_asPaths {own accept contentType : List HeaderSpec}
    (haccept : ∀ h ∈ accept, h.name = "Accept")
    (hcontentType : ∀ h ∈ contentType, h.name = "Content-Type") :
    (own ++ (accept ++ contentType)).filter (·.name != "Content-Type") =
      own.filter (·.name != "Content-Type") ++ accept := by
  have hkept : accept.filter (·.name != "Content-Type") = accept := by
    refine List.filter_eq_self.2 fun h hmem => ?_
    rw [haccept h hmem]
    decide
  have hdropped : contentType.filter (·.name != "Content-Type") = [] := by
    refine List.filter_eq_nil_iff.2 fun h hmem => ?_
    rw [hcontentType h hmem]
    decide
  rw [List.filter_append, List.filter_append, hkept, hdropped, List.append_nil]

/-! ## Its parameters -/

/-- A translated parameter is neither left out nor looked up elsewhere. It has nothing under the
three keys by which the other dialect decides on that, and so it is made of its own node. -/
theorem pathsParameter_asPaths (spec : Value.Entries) (o : Options) (place : String) {node : Value}
    (h : PlainParameter node) :
    (pathsParameter spec o place node.parameterAsPaths).outcome =
      (parameterOf .listing node).map fun p => some p.withoutPlace := by
  have hparameter := parameterOf_asPaths h
  obtain ⟨es, hes, ⟨name, _, hplace⟩, hnone⟩ := h
  have hsame := (unplaced_asPaths hplace (hnone "in" (by decide))).toSamePart
  have hes' := entries_parameterAsPaths hes
  -- none of the keys that only the other dialect looks for is carried over
  have habsent : ∀ other ∈ ["$ref", "x-exclude-from-bindings", "x-proxy-header"],
      node.parameterAsPaths.field other = .ok .null := by
    intro other hother
    have hshared : ∀ other ∈ ["$ref", "x-exclude-from-bindings", "x-proxy-header"],
        isShared (.str other) = true := by decide
    rw [field_of_entries hes', ← hsame.get_eq (hshared other hother), Entries.get,
      hnone other (List.mem_cons_of_mem "in" hother)]
    rfl
  have hkept : isLeftOut o node.parameterAsPaths = .ok false := by
    rw [isLeftOut, habsent "x-exclude-from-bindings" (by decide),
      habsent "x-proxy-header" (by decide)]
    rfl
  simp only [pathsParameter, Trace.outcome_bind, Trace.outcome_liftM, hkept,
    habsent "$ref" (by decide), ok_bind, hparameter]
  cases parameterOf .listing node with
  | error e => rfl
  | ok p => rfl

/-- Translated parameters are made one by one, and each of them is the translated parameter. A
listing that fails at one of them fails in both dialects. -/
theorem parameters_asPaths (spec : Value.Entries) (o : Options) (place : String)
    {nodes : List Value} (h : ∀ node ∈ nodes, PlainParameter node) :
    ((nodes.map parameterAsPaths).mapM fun node => (pathsParameter spec o place node).outcome) =
      (nodes.mapM (parameterOf .listing)).map (List.map fun p => some p.withoutPlace) :=
  mapM_map_eq_map fun node hmem => pathsParameter_asPaths spec o place (h node hmem)

/-- The parameters of an operation are listed, and so are those of its translation. -/
theorem parameters_listed {a b : Value.Entries} (h : Carried a b)
    (hparameters : a.get "parameters" = .null ∨ ∃ nodes,
      (a.get "parameters").opened = .list nodes ∧ ∀ node ∈ nodes, PlainParameter node) :
    ∃ nodes, ((a.get "parameters").orElse (.list [])).elements = .ok nodes ∧
      parameterNodes b (.list []) = .ok (nodes.map parameterAsPaths) ∧
      ∀ node ∈ nodes, PlainParameter node := by
  -- parameters that are not stated are an empty list in both dialects
  rcases hparameters with hnull | ⟨nodes, hopened, hplain⟩
  · refine ⟨[], by rw [hnull]; rfl, ?_, fun node hmem => absurd hmem List.not_mem_nil⟩
    rw [parameterNodes, h.parameters, hnull]
    rfl
  · refine ⟨nodes, elements_orElse_list hopened, ?_, hplain⟩
    rw [parameterNodes, h.parameters, parametersAsPaths, hopened]
    exact congrArg Except.ok (List.append_nil _)

/-! ## Its method -/

/-- A method that gains media types and a header for each of the two, and is translated then. -/
theorem withMedia_asPaths (m : Method) {media : Media} {contentType : List HeaderSpec}
    (haccept : ∀ h ∈ media.headers, h.name = "Accept")
    (hcontentType : ∀ h ∈ contentType, h.name = "Content-Type") :
    (withMedia m { media with headers := media.headers ++ contentType }).asPaths =
      withMedia m.asPaths media := by
  simp only [withMedia, Method.asPaths, headers_asPaths haccept hcontentType]

/-- A method that gains parameters and is translated then. -/
theorem withParameters_asPaths (m : Method) (ps : List Parameter) :
    (withParameters m ps).asPaths =
      withParameters m.asPaths (ps.map Parameter.withoutPlace) := by
  have hrequired : (ps.map Parameter.withoutPlace).any (!·.required) = ps.any (!·.required) :=
    List.any_map
  simp only [withParameters, Method.asPaths, List.map_append, hrequired]

/-- The description, as far as operations depend on it, in both dialects. -/
structure SharedWith (spec spec' : Value.Entries) : Prop where
  produces : spec'.get "produces" = spec.get "produces"
  consumes : spec'.get "consumes" = spec.get "consumes"
  texts : TextList (spec.get "consumes")
  security : spec'.get "security" = .null

/-- The operation in the other dialect. -/
def Operation.asPaths (op : Operation) : Operation :=
  { op with node := op.node.operationAsPaths }

/-- **The method of a translated operation is the translated method.** Both decoders take the same
steps: what is stated, the media types, the parameters. In one of them a header is made of the
content types, and this cannot fail here. -/
theorem unnamed_asPaths {spec spec' : Value.Entries} (hspec : SharedWith spec spec') (o : Options)
    {op : Operation} (hop : PlainOperation op.node) (hshared : op.shared = .list []) :
    op.asPaths.unnamed .paths spec' o = (op.unnamed .listing spec o).map Method.asPaths := by
  obtain ⟨es, hes, _, hconsumes, hparameters⟩ := hop
  have hes' := entries_operationAsPaths hes
  have hcarried := carried_asPaths es
  obtain ⟨nodes, hnodes, hnodes', hplain⟩ := parameters_listed hcarried hparameters
  have hmedia := mediaOf_congr hspec.produces hspec.consumes hcarried.produces hcarried.consumes
  rw [Operation.unnamed, Operation.unnamed, Operation.unnamedListed, Operation.unnamedKeyed]
  simp only [Operation.asPaths, hes, hes', ok_bind, hshared, hcarried.description,
    hcarried.externalDocs, hcarried.security, hspec.security, hcarried.summary, hmedia, hnodes,
    hnodes']
  refine both_map_iff.1 ((both_map_iff.2 (method_asPaths _ "")).bind fun m m' hm => ?_)
  cases hfound : mediaOf spec es with
  | error e => exact rfl
  | ok media =>
    -- only one dialect makes a header here, which could fail if there were other than texts
    obtain ⟨haccept, contentType, hcontentType, hname⟩ := headers_of_mediaOf hspec.texts hconsumes
      hfound
    rw [ok_bind, ok_bind, hcontentType, ok_bind]
    refine (both_map_iff.2 (parameters_asPaths spec' o _ hplain)).bind fun ps ps' hps => ?_
    have hkept : ps'.filterMap id = ps.map Parameter.withoutPlace := by
      rw [hps, List.filterMap_map]
      exact congrFun List.filterMap_eq_map ps
    change withParameters (withMedia m' media) (ps'.filterMap id) = (withParameters _ ps).asPaths
    rw [hkept, hm, withParameters_asPaths, withMedia_asPaths m haccept hname]

/-! ## The base of its name -/

/-- Neither the dialect nor the methods of a service matter for what an operation calls itself. -/
theorem nameOf_asPaths (service : Service) (raw verb path : Value) :
    (nameOf .paths id service.asPaths raw verb path).outcome =
      (nameOf .listing id service raw verb path).outcome := by
  have hwithout : withoutService service.asPaths raw = withoutService service raw := rfl
  simp only [nameOf, hwithout, Trace.outcome_bind, Trace.outcome_liftM]
  cases withoutService service raw with
  | error e => rfl
  | ok stated =>
    simp only [ok_bind]
    split
    · rfl
    · -- a made name is announced with the dialect, and that is all the dialect is for
      simp only [Trace.outcome_bind, Trace.outcome_tell, Trace.outcome_liftM]

/-- A translated operation asks for the name that it asked for before: what it calls itself is
found under the new name, and its verb and path are the same. -/
theorem base_asPaths (service : Service) {op : Operation} (hop : PlainOperation op.node) :
    op.asPaths.base .paths service.asPaths = op.base .listing service := by
  obtain ⟨es, hes, _⟩ := hop
  have hes' := entries_operationAsPaths hes
  simp only [Operation.base, Operation.asPaths, Dialect.nameField, field_of_entries hes,
    field_of_entries hes', (carried_asPaths es).name, nameOf_asPaths]

end Decoding

end ApiOutline
