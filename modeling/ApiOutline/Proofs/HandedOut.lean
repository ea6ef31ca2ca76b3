/-
Outlines that can be handed out.

Not every outline can be handed out, for a description may have octets that write no text, values
that contain themselves, or too many levels, and an outline keeps whatever it does not know. But it
keeps nothing else: what is in an outline besides texts and switches is taken out of the
description. So if the description fits, everything in the outline does (`decode_fits`), and an
outline in which everything fits can be handed out (`Summary.Fits.exists_form`).

The first half follows the outline from the inside to the outside: what a record keeps, parameters,
methods, services. The second follows the document the other way, as the decoders do: operations,
the nodes of their parameters, parameters, and at each step what is taken out there.
-/
import ApiOutline.Proofs.Methods
import ApiOutline.Proofs.Models
import ApiOutline.Proofs.Parameter.Kept
import ApiOutline.Proofs.Value.Fits

set_option autoImplicit false

namespace ApiOutline

open Outcome Value

/-! ## Records in which everything fits -/

/-- What a record keeps fits. -/
def Extras.Fit (xs : Extras) : Prop :=
  ∀ x ∈ xs, x.2.Fits

/-- What a parameter has besides texts and switches fits. -/
structure Parameter.Fits (p : Parameter) : Prop where
  singleton : p.singleton.Fits
  extras : Extras.Fit p.extras

/-- What a method has besides texts and switches fits. -/
structure Method.Fits (m : Method) : Prop where
  parameters : ∀ p ∈ m.parameters, p.Fits
  externalDocs : ∀ es, m.externalDocs = some es → (object (Entries.ofTexts es)).Fits
  accepts : AllFit m.accepts
  contentTypes : AllFit m.contentTypes

structure Model.Fits (m : Model) : Prop where
  properties : ∀ p ∈ m.properties, Extras.Fit p.extras
  extras : Extras.Fit m.extras

/-- In an outline everything fits. Its methods are in groups, so nothing is to be said of these. -/
structure Summary.Fits (s : Summary) : Prop where
  methods : ∀ service ∈ s.services, ∀ m ∈ service.methods, m.grouped = m ∧ m.Fits
  models : ∀ model ∈ s.models, model.Fits

/-! ### They are handed out -/

/-- What a record keeps is handed out field by field, and each field as it is. -/
theorem formFields_eq_ok {xs : Extras} (h : Extras.Fit xs) : formFields xs = .ok xs := by
  induction xs with
  | nil => rfl
  | cons x rest ih =>
    have hx := (h x List.mem_cons_self).form_eq_ok
    have hrest := ih fun y hy => h y (List.mem_cons_of_mem x hy)
    rw [formFields, hx, ok_bind, hrest]
    rfl

/-- A record is handed out with its fields in front and what it keeps behind them. -/
theorem exists_recordForm (fields : List (String × Value)) {xs : Extras} (h : Extras.Fit xs) :
    ∃ v, recordForm fields xs = .ok v := by
  rw [recordForm, formFields_eq_ok h]
  exact ⟨_, rfl⟩

/-- A parameter is handed out if its sole value and what it keeps fit. All its other fields are
texts and switches. -/
theorem Parameter.Fits.exists_form {p : Parameter} (h : p.Fits) : ∃ v, p.form = .ok v := by
  rw [Parameter.form, h.singleton.form_eq_ok, ok_bind]
  exact exists_recordForm _ h.extras

/-- A list of parameters is handed out one by one. -/
theorem exists_parametersForm {ps : List Parameter} (h : ∀ p ∈ ps, p.Fits) :
    ∃ v, parametersForm ps = .ok v := by
  obtain ⟨vs, hvs⟩ := exists_mapM fun p hp => (h p hp).exists_form
  rw [parametersForm, hvs]
  exact ⟨_, rfl⟩

/-- So is a parameter that may be missing, as for the body of a method. -/
theorem exists_parameterForm? {p? : Option Parameter} (h : ∀ p, p? = some p → p.Fits) :
    ∃ v, parameterForm? p? = .ok v := by
  cases p? with
  | none => exact ⟨_, rfl⟩
  | some p => exact (h p rfl).exists_form

/-- Documents are handed out under their names, or nothing where a method has none. -/
theorem exists_documentsForm? {es? : Option (List (String × Value))}
    (h : ∀ es, es? = some es → (object (Entries.ofTexts es)).Fits) :
    ∃ v, documentsForm? es? = .ok v := by
  cases es? with
  | none => exact ⟨_, rfl⟩
  | some es =>
    have hform : formEntries 1 [] (Entries.ofTexts es) = .ok (Entries.ofTexts es) :=
      (h es rfl).formEntries_eq_ok
    exact ⟨object (Entries.ofTexts es), map_eq_ok_iff.2 ⟨_, hform, rfl⟩⟩

/-- **A method is handed out with its groups.** Each group is a part of its parameters, so nothing
has to be assumed about groups but that they are those of the method. -/
theorem Method.Fits.exists_form {m : Method} (h : m.Fits) (hgroups : m.grouped = m) :
    ∃ v, m.form = .ok v := by
  -- what is in a group is among the parameters
  have hgroup : ∀ keep : Parameter → Bool, ∃ v, parametersForm (m.parameters.filter keep) = .ok v :=
    fun keep => exists_parametersForm fun p hp => h.parameters p (List.mem_filter.1 hp).1
  obtain ⟨externalDocs, hdocs⟩ := exists_documentsForm? h.externalDocs
  obtain ⟨parameters, hparameters⟩ := exists_parametersForm h.parameters
  obtain ⟨path, hpath⟩ := hgroup (·.isPath)
  obtain ⟨query, hquery⟩ := hgroup (·.isQuery)
  obtain ⟨header, hheader⟩ := hgroup (·.isHeader)
  obtain ⟨form, hform⟩ := hgroup (·.isForm)
  obtain ⟨required, hrequired⟩ := hgroup (·.required)
  obtain ⟨optional, hoptional⟩ := hgroup (!·.required)
  obtain ⟨body, hbody⟩ := @exists_parameterForm? (m.parameters.find? (·.isBody)) fun p hp =>
    h.parameters p (List.mem_of_find?_eq_some hp)
  rw [← hgroups]
  simp only [Method.form, Method.grouped, hdocs, hparameters, h.accepts.formItems_eq_ok,
    h.contentTypes.formItems_eq_ok, hpath, hquery, hheader, hform, hrequired, hoptional, hbody,
    ok_bind]
  exact ⟨_, rfl⟩

/-- A model is handed out with its properties, each of which is a record with what it keeps. -/
theorem Model.Fits.exists_form {m : Model} (h : m.Fits) : ∃ v, m.form = .ok v := by
  have hproperty : ∀ p ∈ m.properties, ∃ v, p.form = .ok v :=
    fun p hp => exists_recordForm _ (h.properties p hp)
  obtain ⟨properties, hproperties⟩ := exists_mapM hproperty
  rw [Model.form, hproperties, ok_bind]
  exact exists_recordForm _ h.extras

/-- **An outline in which everything fits can be handed out.** There is one way to fail for each
record, which is a value in it with too many levels. -/
theorem Summary.Fits.exists_form {s : Summary} (h : s.Fits) : ∃ v, s.form = .ok v := by
  -- the methods of a service first, then the services and the models
  have hservice : ∀ service ∈ s.services, ∃ v, service.form = .ok v := by
    intro service hservice
    obtain ⟨methods, hmethods⟩ := exists_mapM fun m hm =>
      (h.methods service hservice m hm).2.exists_form (h.methods service hservice m hm).1
    rw [Service.form, hmethods]
    exact ⟨_, rfl⟩
  obtain ⟨services, hservices⟩ := exists_mapM hservice
  obtain ⟨models, hmodels⟩ := exists_mapM fun model hmodel => (h.models model hmodel).exists_form
  rw [Summary.form, hservices, ok_bind, hmodels]
  exact ⟨_, rfl⟩

namespace Decoding

/-! ## What is taken out of a description -/

/-- An operation about which only things that fit are said. -/
structure Operation.Fits (op : Operation) : Prop where
  node : op.node.Fits
  shared : op.shared.Fits

section Description

variable {d : Dialect} {spec : Entries} {o : Options} {op : Operation}

/-- The parameters that a path states for all of its operations are what stands in it under their
name, or the empty list. -/
theorem fits_of_sharedParameters {item : Entries} (h : (object item).Fits) {shared : Value}
    (hshared : sharedParameters item = .ok shared) : shared.Fits := by
  -- what was found so far is the empty list, or it stands in the path
  refine foldlM_invariant (fun e he found found' hfound hstep => ?_) fits_nil hshared
  obtain ⟨name, _, hstep⟩ := bind_eq_ok_iff.1 hstep
  rw [← Except.ok.inj hstep]
  split
  · exact (h.of_mem_object he).orElse fits_nil
  · exact hfound

/-- **About the operations of a description that fits only things that fit are said.** -/
theorem fits_of_operationsAs (h : (object spec).Fits) {ops : List Operation}
    (hops : operationsAs d spec = .ok ops) (hop : op ∈ ops) : op.Fits := by
  cases foundIn_of_operationsAs hops hop with
  | listed hapis hresources hresource hlisted hnodes hnode =>
    have hresourceFits := (h.of_entry hapis).of_elements hresources _ hresource
    exact ⟨(hresourceFits.of_entry hlisted).of_elements hnodes _ hnode, fits_nil⟩
  | keyed hitems he hitem hshared hnode =>
    have hitemsFit := ((h.get "paths").orElse fits_empty).of_entries hitems
    have hitemFits := (hitemsFit.of_mem_object he).of_entries hitem
    exact ⟨hitemFits.of_mem_object hnode, fits_of_sharedParameters hitemFits hshared⟩

/-! ### The nodes of parameters -/

/-- The node that a parameter is made of fits: it is the node that is stated, or what stands in
the description under the name that the node refers to. -/
theorem fits_of_sourceOf (h : (object spec).Fits) {place : String} {node source : Value}
    (hnode : node.Fits) (hsource : sourceOf spec o place node = .ok (some source)) :
    source.Fits := by
  obtain ⟨leftOut, _, hsource⟩ := bind_eq_ok_iff.1 hsource
  split at hsource
  · cases hsource
  · obtain ⟨reference, _, hsource⟩ := bind_eq_ok_iff.1 hsource
    split at hsource
    · rw [resolve] at hsource
      simp only [Trace.outcome_bind, Trace.outcome_liftM, bind_eq_ok_iff] at hsource
      obtain ⟨shared, hshared, hsource⟩ := hsource
      have hsharedFits : shared.Fits := ((h.get "parameters").orElse fits_empty).of_fieldAt hshared
      -- a reference that leads nowhere leaves no source, or fails
      split at hsource
      · split at hsource
        · cases hsource
        · cases hsource
      · rw [← Option.some.inj (Except.ok.inj hsource)]
        exact hsharedFits
    · rw [← Option.some.inj (Except.ok.inj hsource)]
      exact hnode

/-- The nodes that are gone through for an operation are its own and behind them those of its
path. -/
theorem fits_of_parameterNodes {operation : Entries} (hoperation : (object operation).Fits)
    {shared : Value} (hshared : shared.Fits) {nodes : List Value}
    (hnodes : parameterNodes operation shared = .ok nodes) : AllFit nodes := by
  obtain ⟨others, hothers, hnodes⟩ := bind_eq_ok_iff.1 hnodes
  rw [← Except.ok.inj hnodes]
  intro node hnode
  rcases List.mem_append.1 hnode with hown | hother
  · -- the own nodes only count if they are a list
    split at hown
    · next own hlist =>
      have hparameters := hoperation.get "parameters"
      rw [hparameters.opened_eq] at hlist
      rw [hlist] at hparameters
      exact hparameters.of_mem_list node hown
    · exact absurd hown List.not_mem_nil
  · exact hshared.of_elements hothers node hother

/-- **The nodes that an operation leaves fit.** In a listing they are its own entries. For paths
an entry may also refer to a node of the description, which fits because the description does. -/
theorem fits_of_sources (h : (object spec).Fits) (hop : op.Fits) {nodes : List Value}
    (hnodes : op.sources d spec o = .ok nodes) : AllFit nodes := by
  simp only [Operation.sources, bind_eq_ok_iff] at hnodes
  obtain ⟨operation, hoperation, hnodes⟩ := hnodes
  have hoperationFits : (object operation).Fits := hop.node.of_entries hoperation
  cases d with
  | listing => exact ((hoperationFits.get "parameters").orElse fits_nil).of_elements hnodes
  | paths =>
    simp only [bind_eq_ok_iff] at hnodes
    obtain ⟨stated, hstated, found, hfound, hnodes⟩ := hnodes
    rw [← Except.ok.inj hnodes]
    intro source hsource
    obtain ⟨_, hmem, rfl⟩ := List.mem_filterMap.1 hsource
    obtain ⟨node, hnode, hsourceOf⟩ := exists_of_forall₂_right (mapM_eq_ok_iff.1 hfound) hmem
    exact fits_of_sourceOf h (fits_of_parameterNodes hoperationFits hop.shared hstated node hnode)
      hsourceOf

/-- What is kept of an object that fits does fit. -/
theorem fit_of_subset {es : Entries} (h : (object es).Fits) {xs : Extras}
    (hsub : Entries.ofTexts xs ⊆ es) : Extras.Fit xs := by
  intro x hx
  have hmem : (Scalar.str x.1, x.2) ∈ Entries.ofTexts xs := List.mem_map.2 ⟨x, hx, rfl⟩
  exact h.of_mem_object (hsub hmem)

/-- A parameter has a sole value and what it keeps, and both were in its node. -/
theorem fits_of_parameterOf {node : Value} (hnode : node.Fits) {p : Parameter}
    (hp : parameterOf d node = .ok p) : p.Fits := by
  obtain ⟨es, hes, hderives⟩ := parameterOf_eq_ok hp
  obtain ⟨es', hes', hkept⟩ := parameterOf_keeps hp
  obtain rfl : es = es' := Except.ok.inj (hes.symm.trans hes')
  have hesFits : (object es).Fits := hnode.of_entries hes
  constructor
  case singleton =>
    rw [hderives.singleton, FieldName.any_of_one_name]
    -- the one value of an enumeration, or what the node says itself
    cases hsole : soleValue? es with
    | some only => exact (hesFits.get "enum").of_first (soleValue?_eq_some_iff.1 hsole).2
    | none => exact hesFits.get "singleton"
  case extras => exact fit_of_subset hesFits hkept.sublist.subset

/-! ### Media types and documents -/

/-- The types of an answer fit, whichever of the three ways they come: stated by the operation,
picked by the decoder, or stated for all. -/
theorem fits_of_answerTypes (h : (object spec).Fits) {operation : Entries}
    (hoperation : (object operation).Fits) {types : List Value}
    (htypes : answerTypes spec operation = .ok (some types)) : AllFit types := by
  rw [answerTypes] at htypes
  split at htypes
  · obtain ⟨own, hown, hsome⟩ := map_eq_ok_iff.1 htypes
    rw [← Option.some.inj hsome]
    exact (hoperation.get "produces").of_elements hown
  · split at htypes
    · obtain ⟨hasJson, _, htypes⟩ := bind_eq_ok_iff.1 htypes
      split at htypes
      · rw [← Option.some.inj (Except.ok.inj htypes)]
        intro type htype
        rw [List.mem_singleton.1 htype]
        exact fits_str jsonType
      · obtain ⟨shared, hshared, hsome⟩ := map_eq_ok_iff.1 htypes
        rw [← Option.some.inj hsome]
        exact (h.get "produces").of_elements hshared
    · cases htypes

/-- So do the types of a request, which are stated by the operation or for all. -/
theorem fits_of_requestTypes (h : (object spec).Fits) {operation : Entries}
    (hoperation : (object operation).Fits) {types : List Value}
    (htypes : requestTypes spec operation = .ok (some types)) : AllFit types := by
  -- it does not matter who states the types
  have hread : ∀ stated : Value, stated.Fits →
      (if stated.isNull then .ok none else stated.elements.map some) =
        (.ok (some types) : Except Fault (Option (List Value))) → AllFit types := by
    intro stated hstated h
    split at h
    · cases h
    · obtain ⟨elements, helements, hsome⟩ := map_eq_ok_iff.1 h
      rw [← Option.some.inj hsome]
      exact hstated.of_elements helements
  refine hread _ ?_ htypes
  split
  · exact h.get "consumes"
  · exact hoperation.get "consumes"

/-- Types that are stated fit, and where none are there is nothing to fit. -/
theorem allFit_getD {types : Option (List Value)}
    (h : ∀ stated, types = some stated → AllFit stated) : AllFit (types.getD []) := by
  cases types with
  | none => exact fun x hx => absurd hx List.not_mem_nil
  | some stated => exact h stated rfl

/-- Both lists of types of an operation fit. Where none is stated the list is empty. -/
theorem fits_of_mediaOf (h : (object spec).Fits) {operation : Entries}
    (hoperation : (object operation).Fits) {media : Media}
    (hmedia : mediaOf spec operation = .ok media) :
    AllFit media.accepts ∧ AllFit media.contentTypes := by
  simp only [mediaOf, bind_eq_ok_iff] at hmedia
  obtain ⟨answers, hanswers, -, -, requests, hrequests, hmedia⟩ := hmedia
  rw [← Except.ok.inj hmedia]
  constructor
  · refine allFit_getD ?_
    rintro stated rfl
    exact fits_of_answerTypes h hoperation hanswers
  · refine allFit_getD ?_
    rintro stated rfl
    exact fits_of_requestTypes h hoperation hrequests

/-- The documents of a method are what its operation has under their name. -/
theorem fits_of_mapping? {field : String} {v : Value} (hv : v.Fits)
    {es : List (String × Value)} (hes : (Reading.mapping? field v).value = some es) :
    (object (Entries.ofTexts es)).Fits := by
  rw [Reading.mapping?, hv.opened_eq] at hes
  split at hes
  · cases hes
  · next stated =>
    -- its keys are texts, so reading them as texts changes nothing
    have hread := Option.some.inj hes
    rw [Reading.all_value, List.map_map] at hread
    have hsame : Entries.ofTexts es = stated := by
      rw [← hread, Entries.ofTexts, List.map_map]
      refine (List.map_congr_left fun e he => ?_).trans (List.map_id stated)
      obtain ⟨key, u⟩ := e
      obtain ⟨name, rfl⟩ : ∃ name, key = .str name := (isJson_of_haveJson hv.isJson he).1
      rfl
    rw [hsame]
    exact hv
  · cases hes

/-- The documents of a method fit, since reading texts that are texts does not change them. -/
theorem fits_of_method {st : Stated} (hdocs : st.externalDocs.Fits) {name : String} {m : Method}
    (hm : st.method name = .ok m) :
    ∀ es, m.externalDocs = some es → (object (Entries.ofTexts es)).Fits := by
  intro es hes
  obtain ⟨_, rfl⟩ := Reading.record_eq_ok_iff.1 hm
  exact fits_of_mapping? hdocs hes

/-! ### Methods and models -/

/-- **In the method of an operation everything fits.** Its documents are its own, its media types
are its own or those of the description, and its parameters are made of nodes that one of the two
has. -/
theorem fits_of_unnamed (h : (object spec).Fits) (hop : op.Fits) {unnamed : Method}
    (hunnamed : op.unnamed d spec o = .ok unnamed) (name : String) :
    (unnamed.renamed name).grouped.Fits := by
  obtain ⟨nodes, hnodes, hps⟩ := (Operation.makes_of_unnamed hunnamed name).parameters
  have hnodesFit : AllFit nodes := fits_of_sources h hop hnodes
  -- the parameters in the groups are made of nodes that the operation leaves
  have hparameters : ∀ p ∈ (unnamed.renamed name).grouped.parameters, p.Fits := by
    intro p hp
    obtain ⟨node, hnode, hparameter⟩ := exists_of_forall₂_right hps hp
    exact fits_of_parameterOf (hnodesFit node hnode) hparameter
  cases d with
  | listing =>
    simp only [Operation.unnamed, Operation.unnamedListed, bind_eq_ok_iff] at hunnamed
    obtain ⟨operation, hoperation, stated, hstated, media, hmedia, _, _, _, _, _, _, hunnamed⟩ :=
      hunnamed
    obtain ⟨haccepts, hcontentTypes⟩ := fits_of_mediaOf h (hop.node.of_entries hoperation) hmedia
    have hdocs := fits_of_method fits_null hstated
    obtain rfl := Except.ok.inj hunnamed
    exact ⟨hparameters, hdocs, haccepts, hcontentTypes⟩
  | paths =>
    simp only [Operation.unnamed, Operation.unnamedKeyed, bind_eq_ok_iff] at hunnamed
    obtain ⟨operation, hoperation, stated, hstated, media, hmedia, _, _, _, _, hunnamed⟩ :=
      hunnamed
    have hoperationFits : (object operation).Fits := hop.node.of_entries hoperation
    obtain ⟨haccepts, hcontentTypes⟩ := fits_of_mediaOf h hoperationFits hmedia
    have hdocs := fits_of_method (hoperationFits.get "externalDocs") hstated
    obtain rfl := Except.ok.inj hunnamed
    exact ⟨hparameters, hdocs, haccepts, hcontentTypes⟩

theorem beyond_subset (es : Entries) (names : List String) : es.beyond names ⊆ es :=
  List.filter_sublist.subset

/-- A model keeps what its definition says besides the fields it knows, and each of its properties
what its schema says. -/
theorem fits_of_modelOf {version : Option String} {e : Scalar × Value} (he : e.2.Fits) {m : Model}
    (hm : FromEntry (ModelOf version) e m) : m.Fits := by
  obtain ⟨definition, hdefinition, hmodel⟩ := hm
  have hdefinitionFits : (object definition).Fits := he.of_entries hdefinition
  obtain ⟨schemas, hschemas, hproperties⟩ := hmodel.properties
  have hschemasFit : (object schemas).Fits :=
    ((hdefinitionFits.get "properties").orElse fits_empty).of_entries hschemas
  constructor
  case properties =>
    intro p hp
    obtain ⟨f, hf, schema, hschema, hproperty⟩ := exists_of_forall₂_right hproperties hp
    refine fit_of_subset ((hschemasFit.of_mem_object hf).of_entries hschema) ?_
    rw [hproperty.extras]
    exact beyond_subset schema _
  case extras =>
    refine fit_of_subset hdefinitionFits ?_
    rw [hmodel.extras]
    exact beyond_subset definition _

end Description

/-- **In the outline of a description that fits everything does.** Nothing that is handed out has
more levels than what it was taken from, so no limit is met that the description itself keeps to.
-/
theorem decode_fits {spec : Value} {o : Options} {s : Summary} (hspec : spec.Fits)
    (h : (decode spec o).outcome = .ok s) : s.Fits := by
  -- the services come from the operations, and the models from the definitions
  constructor
  case methods =>
    obtain ⟨d, entries, ops, hentries, hops, hmethods⟩ := decode_unnamed h
    have hentriesFit : (object entries).Fits := hspec.of_entries hentries
    intro service hservice m hm
    obtain ⟨op, hop, unnamed, name, hunnamed, rfl⟩ := hmethods.exists_operation hservice hm
    refine ⟨rfl, fits_of_unnamed hentriesFit ?_ hunnamed name⟩
    obtain ⟨entries', _, hentries', hops'⟩ := operations_eq_ok_iff.1 hops
    obtain rfl : entries = entries' := Except.ok.inj (hentries.symm.trans hentries')
    exact fits_of_operationsAs hentriesFit hops' hop
  case models =>
    obtain ⟨d, entries, version, stated, _, hentries, _, hstated, hmodels⟩ := decode_models h
    have hstatedFit : (object stated).Fits :=
      (((hspec.of_entries hentries).get _).orElse fits_empty).of_entries hstated
    intro model hmodel
    obtain ⟨e, he, hmade⟩ := exists_of_forall₂_right hmodels hmodel
    exact fits_of_modelOf (hstatedFit.of_mem_object (List.mem_filter.1 he).1) hmade

end Decoding

end ApiOutline
