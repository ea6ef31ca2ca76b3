/-
What decoding takes from a description besides its operations.

A decoder asks a description for its entries by name, and for the entry that holds the operations
it asks in one place only, to walk through it. Everything else it does can be told from the other
entries. So two descriptions that agree but for that entry (`AgreeBut`) go to the same decoder, say
the same about themselves and define the same models (`frame`), and what one operation does to a
roster is the same for both.

Put together with the walk this gives `decode_eq_ok_iff`: an outline is what comes of the frame and
of one fold over the operations. Every comparison of two descriptions that differ in their
operations alone starts from there, and only has to compare the operations.
-/
import ApiOutline.Proofs.Value.Entries
import ApiOutline.Proofs.Walk

set_option autoImplicit false

namespace ApiOutline

/-- The field in which a description has its operations. -/
def Dialect.itemsField : Dialect → String
  | .listing => "apis"
  | .paths => "paths"

/-! ## Entries that agree -/

namespace Value

/-- The same stands under these names. -/
def AgreeOn (names : List String) (a b : Entries) : Prop :=
  ∀ name ∈ names, lookup (.str name) a = lookup (.str name) b

/-- The same stands under all names but one. -/
def AgreeBut (name : String) (a b : Entries) : Prop :=
  ∀ other, other ≠ name → lookup (.str other) a = lookup (.str other) b

/-- A description in which one entry is set anew agrees with itself but for that entry. -/
theorem agreeBut_set (es : Entries) (name : String) (v : Value) :
    AgreeBut name es (es.set name v) := by
  intro other hne
  rw [Entries.set, lookup_put, if_neg (Ne.symm hne)]

/-- What was set is found. -/
theorem lookup_set (es : Entries) (name : String) (v : Value) :
    lookup (.str name) (es.set name v) = some v := by
  rw [Entries.set, lookup_put, if_pos rfl]

/-- What was put under a name is found there. -/
theorem get_set (es : Entries) (name : String) (v : Value) : (es.set name v).get name = v :=
  Entries.get_of_lookup (lookup_set es name v)

section Agree

variable {name other : String} {names others : List String} {a b : Entries}

/-- Objects that agree on a name have the same there. -/
theorem AgreeOn.get_eq (h : AgreeOn names a b) (hmem : other ∈ names) :
    a.get other = b.get other := by
  rw [Entries.get, Entries.get, h other hmem]

/-- Descriptions that agree on a name answer alike when they are asked for the entry of that name,
and fail alike where there is none. -/
theorem AgreeOn.entry_eq (h : AgreeOn names a b) (hmem : other ∈ names) :
    (object a).entry other = (object b).entry other := by
  rw [entry, entry]
  dsimp only [opened]
  rw [h other hmem]

theorem AgreeOn.mono (h : AgreeOn names a b) (hsub : ∀ other ∈ others, other ∈ names) :
    AgreeOn others a b :=
  fun other hmem => h other (hsub other hmem)

/-- Agreement but for one name is agreement on any names without it. -/
theorem AgreeBut.agreeOn (h : AgreeBut name a b) (hname : name ∉ names) : AgreeOn names a b := by
  intro other hmem
  refine h other ?_
  rintro rfl
  exact hname hmem

/-- Objects that agree but on one name have the same under any other. -/
theorem AgreeBut.get_eq (h : AgreeBut name a b) (hne : other ≠ name) :
    a.get other = b.get other := by
  rw [Entries.get, Entries.get, h other hne]

theorem AgreeBut.symm (h : AgreeBut name a b) : AgreeBut name b a :=
  fun other hne => (h other hne).symm

end Agree

end Value

namespace Decoding

open Outcome Value

/-! ## Besides the operations -/

/-- An outline but for its services: what the description says about itself, and its models. -/
def frame (d : Dialect) (spec : Value.Entries) (o : Options) : Except Fault Summary :=
  match d with
  | .listing => do
    checkTexts [spec.get "apiVersion", spec.get "title"]
    let summary ← (listingHead spec).summary o
    let models ← modelsOf false none (spec.get "models")
    return { summary with models }
  | .paths => do
    let head ← pathsHead spec o
    let summary ← head.summary o
    let models ← modelsOf true head.version (spec.get "definitions")
    return { summary with models }

/-- What an operation takes and gives depends on two fields of it and the same two of the
description. -/
theorem mediaOf_congr {spec spec' a b : Value.Entries}
    (hspecProduces : spec'.get "produces" = spec.get "produces")
    (hspecConsumes : spec'.get "consumes" = spec.get "consumes")
    (hproduces : b.get "produces" = a.get "produces")
    (hconsumes : b.get "consumes" = a.get "consumes") : mediaOf spec' b = mediaOf spec a := by
  simp only [mediaOf, answerTypes, requestTypes, hspecProduces, hspecConsumes, hproduces,
    hconsumes]

/-- The address of a service depends on the host and the schemes. -/
theorem domainOf_congr {a b : Value.Entries} (o : Options) (hhost : a.get "host" = b.get "host")
    (hschemes : a.get "schemes" = b.get "schemes") : domainOf a o = domainOf b o := by
  simp only [domainOf, schemeOf, hhost, hschemes]

/-- The fields that are asked for the version of a description. -/
def versionFields : List String :=
  ["swagger", "swaggerVersion", "openapi"]

/-- A decoder is chosen by the version alone. If none takes it, the refusal names the version too,
or what stands under a third name where none is stated. -/
theorem select_of_agreeOn {a b : Value.Entries} (h : AgreeOn versionFields a b) :
    select (.object a) = select (.object b) := by
  have hstated : statedVersion (.object a) = statedVersion (.object b) := by
    have hswagger : a.get "swagger" = b.get "swagger" := h.get_eq (by decide)
    have hother : a.get "swaggerVersion" = b.get "swaggerVersion" := h.get_eq (by decide)
    simp only [statedVersion, hswagger, hother]
  have hrefused : refusedVersion (.object a) = refusedVersion (.object b) := by
    unfold refusedVersion
    rw [hstated]
    -- a description that states no version is asked under a third name
    cases statedVersion (.object b) with
    | scalar k =>
      cases k with
      | null => exact h.get_eq (by decide)
      | _ => rfl
    | _ => rfl
  simp only [select, selectAmong, accepts, hstated, hrefused]

/-- So a description goes to the same decoder if anything but its version is changed. -/
theorem select_eq_of_agree {name : String} {a b : Value.Entries} (hname : name ∉ versionFields)
    (h : AgreeBut name a b) : select (.object a) = select (.object b) :=
  select_of_agreeOn (h.agreeOn hname)

/-- What is said about a listing. -/
theorem listingHead_of_agreeOn {a b : Value.Entries}
    (h : AgreeOn ["basePath", "apiVersion", "title", "description", "authorizations"] a b) :
    listingHead a = listingHead b := by
  have hbasePath : a.get "basePath" = b.get "basePath" := h.get_eq (by decide)
  have hversion : a.get "apiVersion" = b.get "apiVersion" := h.get_eq (by decide)
  have htitle : a.get "title" = b.get "title" := h.get_eq (by decide)
  have hdescription : a.get "description" = b.get "description" := h.get_eq (by decide)
  have hauthorizations : a.get "authorizations" = b.get "authorizations" := h.get_eq (by decide)
  simp only [listingHead, hbasePath, hversion, htitle, hdescription, hauthorizations]

/-- What is said about a description by paths, but for its address. -/
theorem pathsHead_of_agreeOn {a b : Value.Entries}
    (h : AgreeOn ["info", "basePath", "securityDefinitions"] a b) (o : Options)
    (hdomain : domainOf a o = domainOf b o) : pathsHead a o = pathsHead b o := by
  have hinfo : (object a).entry "info" = (object b).entry "info" := h.entry_eq (by decide)
  have hbasePath : a.get "basePath" = b.get "basePath" := h.get_eq (by decide)
  have hsecurity : a.get "securityDefinitions" = b.get "securityDefinitions" :=
    h.get_eq (by decide)
  simp only [pathsHead, hinfo, hdomain, baseUrlOf, hbasePath, hsecurity]

/-- The fields that a decoder asks for besides those with the operations. -/
def frameFields : Dialect → List String
  | .listing => ["basePath", "apiVersion", "title", "description", "authorizations", "models"]
  | .paths => ["info", "host", "schemes", "basePath", "securityDefinitions", "definitions"]

section AgreeOn

variable {d : Dialect} {a b : Value.Entries}

/-- The operations of a description are where its dialect has them, and are told by that one
entry. -/
theorem operationsAs_of_agreeOn (h : AgreeOn [d.itemsField] a b) :
    operationsAs d a = operationsAs d b := by
  cases d with
  | listing =>
    have hitems : (object a).entry "apis" = (object b).entry "apis" := h.entry_eq (by decide)
    rw [operationsAs, operationsAs, hitems]
  | paths =>
    have hitems : a.get "paths" = b.get "paths" := h.get_eq (by decide)
    rw [operationsAs, operationsAs, hitems]

/-- The version that services are given comes from what the description says about itself. -/
theorem serviceVersion_of_agreeOn (h : AgreeOn (frameFields d) a b) :
    serviceVersion d a = serviceVersion d b := by
  cases d with
  | listing => rfl
  | paths =>
    have hinfo : (object a).entry "info" = (object b).entry "info" := h.entry_eq (by decide)
    rw [serviceVersion, serviceVersion, hinfo]

/-- **The frame of a description is told by the fields of its dialect.** The operations are not
among these, nor what they refer to. -/
theorem frame_of_agreeOn (h : AgreeOn (frameFields d) a b) (o : Options) :
    frame d a o = frame d b o := by
  cases d with
  | listing =>
    have hmodels : a.get "models" = b.get "models" := h.get_eq (by decide)
    have hversion : a.get "apiVersion" = b.get "apiVersion" := h.get_eq (by decide)
    have htitle : a.get "title" = b.get "title" := h.get_eq (by decide)
    rw [frame, frame, listingHead_of_agreeOn (h.mono (by decide)), hversion, htitle, hmodels]
  | paths =>
    have hhost : a.get "host" = b.get "host" := h.get_eq (by decide)
    have hschemes : a.get "schemes" = b.get "schemes" := h.get_eq (by decide)
    have hmodels : a.get "definitions" = b.get "definitions" := h.get_eq (by decide)
    rw [frame, frame, pathsHead_of_agreeOn (h.mono (by decide)) o (domainOf_congr o hhost hschemes),
      hmodels]

end AgreeOn

/-- The head of a description by paths depends on three fields besides its address. -/
theorem pathsHead_eq_of_domain {name : String} {a b : Value.Entries}
    (hname : name ∉ ["info", "basePath", "securityDefinitions"]) (h : AgreeBut name a b)
    (o : Options) (hdomain : domainOf a o = domainOf b o) : pathsHead a o = pathsHead b o :=
  pathsHead_of_agreeOn (h.agreeOn hname) o hdomain

/-- References are looked for under a name of their own. -/
theorem pathsParameter_congr {a b : Value.Entries} (o : Options)
    (hparameters : a.get "parameters" = b.get "parameters") :
    pathsParameter a o = pathsParameter b o := by
  funext place node
  simp only [pathsParameter, resolve, hparameters]

section Listing

variable {a b : Value.Entries} (h : AgreeBut "apis" a b)

include h

theorem listingHead_congr : listingHead a = listingHead b :=
  listingHead_of_agreeOn (h.agreeOn (by decide))

/-- A method of a listing without its name is made from the operation and, of the description,
from its types and its head. -/
theorem unnamedListed_congr (op : Operation) : op.unnamedListed a = op.unnamedListed b := by
  have hmedia : ∀ operation, mediaOf a operation = mediaOf b operation := fun operation =>
    mediaOf_congr (h.get_eq (by decide)) (h.get_eq (by decide)) rfl rfl
  simp only [Operation.unnamedListed, listingHead_congr h, hmedia]

end Listing

section Paths

variable {a b : Value.Entries} (h : AgreeBut "paths" a b) (o : Options)

include h

/-- Changing the operations leaves the head of a description by paths as it is. -/
theorem pathsHead_congr : pathsHead a o = pathsHead b o := by
  have hhost : a.get "host" = b.get "host" := h.get_eq (by decide)
  have hschemes : a.get "schemes" = b.get "schemes" := h.get_eq (by decide)
  exact pathsHead_eq_of_domain (by decide) h o (domainOf_congr o hhost hschemes)

/-- A method of a description by paths takes more from it: the security that holds for all, and
the parameters that can be referred to. The other operations are not among it. -/
theorem unnamedKeyed_congr (op : Operation) : op.unnamedKeyed a o = op.unnamedKeyed b o := by
  have hmedia : ∀ operation, mediaOf a operation = mediaOf b operation := fun operation =>
    mediaOf_congr (h.get_eq (by decide)) (h.get_eq (by decide)) rfl rfl
  have hsecurity : a.get "security" = b.get "security" := h.get_eq (by decide)
  have hparameters : a.get "parameters" = b.get "parameters" := h.get_eq (by decide)
  simp only [Operation.unnamedKeyed, hmedia, hsecurity, pathsParameter_congr o hparameters]

end Paths

section Agree

variable {d : Dialect} {a b : Value.Entries} (h : AgreeBut d.itemsField a b) (o : Options)

include h

/-- Which decoder a description goes to, and what is told about that. -/
theorem select_congr : select (.object a) = select (.object b) := by
  have hfield : d.itemsField ∉ versionFields := by
    cases d with
    | listing => decide
    | paths => decide
  exact select_eq_of_agree hfield h

/-- Where the operations stand is no field of the frame, in either dialect. -/
theorem agreeOn_frameFields : AgreeOn (frameFields d) a b := by
  refine h.agreeOn ?_
  cases d with
  | listing => decide
  | paths => decide

/-- They give their services the same version as well. -/
theorem serviceVersion_congr : serviceVersion d a = serviceVersion d b :=
  serviceVersion_of_agreeOn (agreeOn_frameFields h)

/-- So two descriptions that differ in their operations alone have the same frame. -/
theorem frame_congr : frame d a o = frame d b o :=
  frame_of_agreeOn (agreeOn_frameFields h) o

/-- **What an operation does to a roster can be told without the other operations of the
description.** -/
theorem add_congr (version : Option String) :
    Roster.add d a o version = Roster.add d b o version := by
  -- the description enters an addition only through the method without its name
  have hunnamed : ∀ op : Operation, op.unnamed d a o = op.unnamed d b o := by
    intro op
    cases d with
    | listing => exact unnamedListed_congr h op
    | paths => exact unnamedKeyed_congr h o op
  funext roster op
  simp only [Roster.add, hunnamed]

end Agree

/-! ## Together with the operations -/

section Whole

variable {d : Dialect} {es : Value.Entries} {o : Options} {s : Summary}

/-- An outline by the decoder of one dialect comes of the frame and of a run over the operations,
and of nothing else. What belongs to the frame is found before the run or after it, so the two can
be asked for apart. -/
theorem decodeAs_eq_ok_iff : (decodeAs d es o).outcome = .ok s ↔
    ∃ ops version roster blank, operationsAs d es = .ok ops ∧ serviceVersion d es = .ok version ∧
      ops.foldlM (Roster.add d es o version) [] = .ok roster ∧ frame d es o = .ok blank ∧
      s = { blank with services := roster.map (·.2) } := by
  -- in one direction the run is taken apart, in the other put together again, once for each
  -- dialect
  constructor
  · intro h
    obtain ⟨ops, version, roster, hops, hversion, hroster, _⟩ := decodeAs_ok h
    refine ⟨ops, version, roster, ?_⟩
    cases d with
    | listing =>
      rw [decodeAs, decodeListing_outcome hops] at h
      simp only [bind_eq_ok_iff] at h
      obtain ⟨_, hwritten, summary, hsummary, roster', hroster', models, hmodels, hs⟩ := h
      obtain rfl : none = version := Except.ok.inj hversion
      obtain rfl : roster = roster' := Except.ok.inj (hroster.symm.trans hroster')
      refine ⟨{ summary with models }, hops, hversion, hroster, ?_, (Except.ok.inj hs).symm⟩
      rw [frame, hwritten, ok_bind, hsummary, ok_bind, hmodels]
      rfl
    | paths =>
      rw [decodeAs, decodePaths_outcome hops] at h
      simp only [bind_eq_ok_iff] at h
      obtain ⟨head, hhead, summary, hsummary, roster', hroster', models, hmodels, hs⟩ := h
      obtain rfl : head.version = version :=
        Except.ok.inj ((serviceVersion_of_pathsHead hhead).symm.trans hversion)
      obtain rfl : roster = roster' := Except.ok.inj (hroster.symm.trans hroster')
      refine ⟨{ summary with models }, hops, hversion, hroster, ?_, (Except.ok.inj hs).symm⟩
      rw [frame, hhead, ok_bind, hsummary, ok_bind, hmodels]
      rfl
  · rintro ⟨ops, version, roster, blank, hops, hversion, hroster, hframe, rfl⟩
    cases d with
    | listing =>
      simp only [frame, bind_eq_ok_iff] at hframe
      obtain ⟨_, hwritten, summary, hsummary, models, hmodels, hblank⟩ := hframe
      obtain rfl : none = version := Except.ok.inj hversion
      rw [decodeAs, decodeListing_outcome hops, hwritten, ok_bind, hsummary, ok_bind, hroster,
        ok_bind, hmodels, ← Except.ok.inj hblank]
      rfl
    | paths =>
      simp only [frame, bind_eq_ok_iff] at hframe
      obtain ⟨head, hhead, summary, hsummary, models, hmodels, hblank⟩ := hframe
      obtain rfl : head.version = version :=
        Except.ok.inj ((serviceVersion_of_pathsHead hhead).symm.trans hversion)
      rw [decodeAs, decodePaths_outcome hops, hhead, ok_bind, hsummary, ok_bind, hroster, ok_bind,
        hmodels, ← Except.ok.inj hblank]
      rfl

/-- **An outline is the frame of its description with the services that a run over the operations
leaves behind, their parameters in groups.** -/
theorem decode_eq_ok_iff (hd : (select (.object es)).outcome = .ok d) :
    (decode (.object es) o).outcome = .ok s ↔
      ∃ ops version roster blank, operationsAs d es = .ok ops ∧
        serviceVersion d es = .ok version ∧
        ops.foldlM (Roster.add d es o version) [] = .ok roster ∧ frame d es o = .ok blank ∧
        s = { blank with services := roster.map (·.2.grouped) } := by
  -- grouping leaves the frame alone, so it can be done service by service
  have hgrouped : ∀ (blank : Summary) (roster : Roster),
      ({ blank with services := roster.map (·.2) } : Summary).grouped =
        { blank with services := roster.map (·.2.grouped) } := by
    intro blank roster
    rw [Summary.grouped, List.map_map]
    rfl
  rw [decode]
  simp only [Trace.outcome_bind, Trace.outcome_liftM, hd, ok_bind, entries_object,
    Trace.outcome_pure, bind_eq_ok_iff, decodeAs_eq_ok_iff]
  constructor
  · rintro ⟨_, ⟨ops, version, roster, blank, hops, hversion, hroster, hframe, rfl⟩, hs⟩
    exact ⟨ops, version, roster, blank, hops, hversion, hroster, hframe,
      (Except.ok.inj hs).symm.trans (hgrouped blank roster)⟩
  · rintro ⟨ops, version, roster, blank, hops, hversion, hroster, hframe, rfl⟩
    exact ⟨_, ⟨ops, version, roster, blank, hops, hversion, hroster, hframe, rfl⟩,
      congrArg Except.ok (hgrouped blank roster)⟩

end Whole

end Decoding

end ApiOutline
