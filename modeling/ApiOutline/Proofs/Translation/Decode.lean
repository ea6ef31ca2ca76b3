/-
A listing and its translation decode alike.

The two decoders are separate walks, over a list of operations here and over keys there, with names
that are put into shape at different moments and places that have different names. What one
operation does to the roster has been compared in the other modules. Here it is put together: the
operations of both documents correspond, neither states anything about itself, neither defines
models, and sorting parameters into groups does not look at what a translation changes.

So the outline of the translation is the translation of the outline (`decode_asPaths`), and if one
of the documents is refused the other is, for the same reason. The domain is the exception. A
listing has a default for it, but for a description by paths it is made of the host and the scheme
that the caller names, and that can fail: a host has to be a text, and a scheme has to have one.
-/
import ApiOutline.Proofs.Translation.Paths
import ApiOutline.Proofs.Translation.Roster

set_option autoImplicit false

namespace ApiOutline

open Value

/-! ## Groups -/

/-- Sorting parameters does not look at what a translation takes away from them. -/
theorem Method.grouped_asPaths (m : Method) : m.asPaths.grouped = m.grouped.asPaths := by
  simp only [Method.grouped, Method.asPaths, List.filter_map, List.find?_map]
  rfl

/-- The methods of a service are grouped one by one, so grouping and translating can change
places. -/
theorem Service.grouped_asPaths (s : Service) : s.asPaths.grouped = s.grouped.asPaths := by
  have hmethods : (s.methods.map Method.asPaths).map Method.grouped =
      (s.methods.map Method.grouped).map Method.asPaths := by
    rw [List.map_map, List.map_map]
    exact List.map_congr_left fun m _ => m.grouped_asPaths
  rw [Service.grouped, Service.asPaths, hmethods]
  rfl

/-- The same for a whole outline. Its new domain is not looked at. -/
theorem Summary.grouped_asPaths (domain : String) (s : Summary) :
    (s.asPaths domain).grouped = s.grouped.asPaths domain := by
  have hservices : (s.services.map Service.asPaths).map Service.grouped =
      (s.services.map Service.grouped).map Service.asPaths := by
    rw [List.map_map, List.map_map]
    exact List.map_congr_left fun s _ => s.grouped_asPaths
  rw [Summary.grouped, Summary.asPaths, hservices]
  rfl

/-! ## What the documents say about themselves -/

namespace Value

section Document

variable (es : Entries)

/-- A translation has at most five keys: two that it brings, the two for types, and the paths. -/
theorem key_of_mem_asPaths : ∀ e ∈ entriesAsPaths es,
    e.1 ∈ [Scalar.str "swagger", .str "info", .str "produces", .str "consumes", .str "paths"] := by
  intro e he
  rw [entriesAsPaths, List.mem_append, List.mem_append, List.mem_filter] at he
  rcases he with (he | ⟨_, hkey⟩) | he
  · rcases List.mem_cons.1 he with rfl | he
    · decide
    · rw [List.mem_singleton.1 he]
      decide
  · rcases Bool.or_eq_true_iff.1 hkey with hkey | hkey
    · rw [eq_of_beq hkey]
      decide
    · rw [eq_of_beq hkey]
      decide
  · rw [List.mem_singleton.1 he]
    change Scalar.str "paths" ∈ _
    decide

theorem get_swagger_asPaths : (entriesAsPaths es).get "swagger" = .str "2.0" := rfl

theorem lookup_info_asPaths : lookup (.str "info") (entriesAsPaths es) = some (.object []) := rfl

/-- What stands under a name in a translation is in the first of its three parts that has it. -/
theorem lookup_asPaths (name : String) : lookup (.str name) (entriesAsPaths es) =
    ((lookup (.str name) [(.str "swagger", .str "2.0"), (.str "info", .object [])]).or
      (lookup (.str name) (es.filter (isMedia ·.1)))).or
        (lookup (.str name) [(.str "paths",
          .object (ofEntries ((itemsIn "apis" (.object es)).map resourceAsPaths)))]) := by
  rw [entriesAsPaths, lookup_append, lookup_append]

/-- The paths of a translation are the resources, each under its path. -/
theorem get_paths_asPaths : (entriesAsPaths es).get "paths" =
    .object (ofEntries ((itemsIn "apis" (.object es)).map resourceAsPaths)) := by
  rw [Entries.get, lookup_asPaths, lookup_filter_of_dropped isMedia (by decide)]
  rfl

/-- The types for all operations are taken over as they stand. -/
theorem get_media_asPaths {name : String} (h : isMedia (.str name) = true) :
    (entriesAsPaths es).get name = es.get name := by
  have hname : name = "produces" ∨ name = "consumes" := by
    rw [isMedia, Bool.or_eq_true, beq_iff_eq, beq_iff_eq, Scalar.str.injEq, Scalar.str.injEq] at h
    exact h
  rw [Entries.get, Entries.get, lookup_asPaths, lookup_filter isMedia h]
  rcases hname with rfl | rfl
  · cases lookup (.str "produces") es with
    | none => rfl
    | some v => rfl
  · cases lookup (.str "consumes") es with
    | none => rfl
    | some v => rfl

/-- Of anything else a translation says nothing. -/
theorem get_asPaths_eq_null {name : String}
    (h : name ∉ ["swagger", "info", "produces", "consumes", "paths"]) :
    (entriesAsPaths es).get name = .null := by
  refine Entries.get_eq_null (key_of_mem_asPaths es) fun hmem => h ?_
  simpa only [List.mem_cons, List.not_mem_nil, or_false, Scalar.str.injEq] using hmem

end Document

end Value

/-- Neither does a plain listing, but for its version and its resources. -/
theorem PlainListing.get_eq_null {es : Value.Entries} (h : PlainListing es) {name : String}
    (hname : name ∉ ["swaggerVersion", "apis", "produces", "consumes"]) :
    es.get name = .null := by
  refine Entries.get_eq_null h.others fun hmem => hname ?_
  simpa only [List.mem_cons, List.not_mem_nil, or_false, Scalar.str.injEq] using hmem

namespace Decoding

open Outcome

/-- What operations take from the description as a whole is the same in both: the types, and no
security. -/
theorem sharedWith_asPaths {es : Value.Entries} (h : PlainListing es) :
    SharedWith es (entriesAsPaths es) where
  produces := get_media_asPaths es (by decide)
  consumes := get_media_asPaths es (by decide)
  texts := h.consumes
  security := get_asPaths_eq_null es (by decide)

/-! ## Operations -/

/-- The operations of a plain resource are plain, and there are no parameters that they share. -/
theorem plain_of_mem_listed {resource : Value} (h : PlainResource resource) {op : Operation}
    (hop : op ∈ listed resource) : PlainOperation op.node ∧ op.shared = .list [] := by
  obtain ⟨path, operations, nodes, _, hoperations, hopened, hplain, _⟩ := h
  rw [listed, itemsIn_of_entry hoperations hopened] at hop
  obtain ⟨node, hmem, rfl⟩ := List.mem_map.1 hop
  exact ⟨hplain node hmem, rfl⟩

/-- **The operations of a translation are those of the listing, translated.** Resources become
paths one by one, and as their paths are different, none of them is lost where they are put into
one object. -/
theorem operations_asPaths {es : Value.Entries} (h : PlainListing es) :
    ∃ ops, operationsAs .listing es = .ok ops ∧
      operationsAs .paths (entriesAsPaths es) = .ok (ops.map Operation.asPaths) ∧
      ∀ op ∈ ops, PlainOperation op.node ∧ op.shared = .list [] := by
  obtain ⟨apis, resources, hapis, hopened, hplain, hpaths⟩ := h.resources
  have hentry : (Value.object es).entry "apis" = .ok apis := entry_of_entries rfl hapis
  have helements : apis.elements = .ok resources := by rw [Value.elements, hopened]
  have hdistinct : ofEntries (resources.map resourceAsPaths) = resources.map resourceAsPaths :=
    ofEntries_of_nodup hpaths
  refine ⟨resources.flatMap listed, ?_, ?_, ?_⟩
  · rw [operationsAs, hentry, ok_bind, helements, ok_bind]
    exact collect_eq_ok fun resource hmem => resourceOperations_eq (hplain resource hmem)
  -- the paths are different, so putting the resources under them loses none
  · rw [operationsAs, get_paths_asPaths, itemsIn_of_entry hentry hopened, hdistinct,
      entries_orElse_object, ok_bind, collect_map, List.map_flatMap]
    exact collect_eq_ok fun resource hmem => itemOperations_eq (hplain resource hmem)
  · intro op hop
    obtain ⟨resource, hresource, hop⟩ := List.mem_flatMap.1 hop
    exact plain_of_mem_listed (hplain resource hresource) hop

/-! ## Heads -/

/-- The head of a listing that says nothing about itself. -/
theorem listingHead_eq {es : Value.Entries} (h : PlainListing es) :
    listingHead es =
      ⟨none, none, .null, false, .str defaultBasePath, .str defaultBasePath⟩ := by
  rw [listingHead, h.get_eq_null (by decide), h.get_eq_null (by decide),
    h.get_eq_null (by decide), h.get_eq_null (by decide), h.get_eq_null (by decide)]
  rfl

/-- The head of its translation has a domain from outside. -/
theorem pathsHead_asPaths (es : Value.Entries) (o : Options) :
    pathsHead (entriesAsPaths es) o =
      (domainOf [] o).map fun domain => ⟨none, none, .null, false, .str domain, .str ""⟩ := by
  have hentry : (Value.object (entriesAsPaths es)).entry "info" = .ok (.object []) :=
    entry_of_entries rfl (lookup_info_asPaths es)
  have hdomain : domainOf (entriesAsPaths es) o = domainOf [] o :=
    domainOf_congr o (get_asPaths_eq_null es (by decide)) (get_asPaths_eq_null es (by decide))
  have hbaseUrl : ∀ domain, baseUrlOf (entriesAsPaths es) domain = .ok "" := by
    intro domain
    rw [baseUrlOf, get_asPaths_eq_null es (by decide)]
    rfl
  have hsecurity : (entriesAsPaths es).get "securityDefinitions" = .null :=
    get_asPaths_eq_null es (by decide)
  simp only [pathsHead, hentry, hdomain, hbaseUrl, hsecurity, ok_bind, field_object]
  cases domainOf [] o with
  | error e => rfl
  | ok domain => rfl

/-- Heads that differ in their addresses are checked alike. -/
theorem summary_of_addresses (o : Options) (own domain baseUrl : String) :
    Head.summary ⟨none, none, .null, false, .str domain, .str baseUrl⟩ o =
      (Head.summary ⟨none, none, .null, false, .str own, .str own⟩ o).map fun s =>
        { s with domain, baseUrl } := by
  rw [Head.summary, Head.summary, Reading.record_map]
  rfl

/-! ## Decoding -/

/-- **The two decoders come to the same on a listing and its translation**, but for the domain,
which one of them makes first. The rest goes step by step with the same failures: the record, the
run over the operations, the models. -/
theorem decodeAs_asPaths {es : Value.Entries} (h : PlainListing es) (o : Options) :
    (decodeAs .paths (entriesAsPaths es) o).outcome = (do
      let domain ← domainOf [] o
      (decodeAs .listing es o).outcome.map (Summary.asPaths domain)) := by
  obtain ⟨ops, hops, hops', hplain⟩ := operations_asPaths h
  have hdefined : es.get "models" = .null := h.get_eq_null (by decide)
  have hdefinitions : (entriesAsPaths es).get "definitions" = .null :=
    get_asPaths_eq_null es (by decide)
  have hmodels : ∀ skip, modelsOf skip none .null = .ok [] := fun _ => rfl
  -- a plain listing states neither version nor title, so there is nothing to be written
  have hwritten : checkTexts [es.get "apiVersion", es.get "title"] = .ok () := by
    rw [h.get_eq_null (by decide), h.get_eq_null (by decide)]
    rfl
  rw [decodeAs, decodeAs, decodePaths_outcome hops', decodeListing_outcome hops, hwritten, ok_bind,
    pathsHead_asPaths, map_bind, listingHead_eq h]
  cases domainOf [] o with
  | error e => rfl
  | ok domain =>
    -- from here on both go the same way, and stop at the same places
    rw [ok_bind, ok_bind, summary_of_addresses o defaultBasePath, map_bind]
    cases Head.summary ⟨none, none, .null, false, .str defaultBasePath, .str defaultBasePath⟩ o with
    | error e => rfl
    | ok summary =>
      have hrun : (ops.map Operation.asPaths).foldlM
          (Roster.add .paths (entriesAsPaths es) o none) [] =
            (ops.foldlM (Roster.add .listing es o none) []).map Roster.asPaths :=
        foldlM_add_asPaths (sharedWith_asPaths h) o hplain []
      simp only [ok_bind, hrun, map_bind, hdefinitions, hdefined]
      cases ops.foldlM (Roster.add .listing es o none) [] with
      | error e => rfl
      | ok roster =>
        have hservices : roster.asPaths.map (·.2) = (roster.map (·.2)).map Service.asPaths := by
          rw [Roster.asPaths, List.map_map, List.map_map]
          rfl
        simp only [Except.map, ok_bind, hservices, hmodels]
        rfl

/-- Each of the two documents goes to the decoder of its own dialect, by the version that it
states. The listing has none under the first name, so that the second one is asked for; the
translation has one there. -/
theorem select_asPaths {es : Value.Entries} (h : PlainListing es) :
    (select (.object es)).outcome = .ok .listing ∧
      (select (.object (entriesAsPaths es))).outcome = .ok .paths := by
  have hlisting : statedVersion (.object es) = .str "1.2" := by
    rw [statedVersion, h.get_eq_null (by decide), h.version]
    rfl
  have hpaths : statedVersion (.object (entriesAsPaths es)) = .str "2.0" := by
    rw [statedVersion, get_swagger_asPaths]
    rfl
  constructor
  · have haccepts : accepts .listing (.object es) = .ok true := by
      rw [accepts, hlisting]
      rfl
    rw [select, selectAmong, Trace.outcome_bind, Trace.outcome_liftM, haccepts]
    rfl
  · have hrefused : accepts .listing (.object (entriesAsPaths es)) = .ok false := by
      rw [accepts, hpaths]
      rfl
    have haccepts : accepts .paths (.object (entriesAsPaths es)) = .ok true := by
      rw [accepts, hpaths]
      rfl
    rw [select, selectAmong, Trace.outcome_bind, Trace.outcome_liftM, hrefused, ok_bind,
      selectAmong, if_neg Bool.false_ne_true, Trace.outcome_bind, Trace.outcome_liftM, haccepts]
    rfl

end Decoding

/-- **A listing and its translation decode alike.** Decoding the translation comes to the outline
of the listing, translated field by field, with the address that the options give; and it fails
exactly where decoding the listing fails or the address cannot be made, with the same fault. -/
theorem decode_asPaths {es : Value.Entries} (h : PlainListing es) (o : Options) :
    (decode (asPaths (.object es)) o).outcome = (do
      let domain ← Decoding.domainOf [] o
      (decode (.object es) o).outcome.map (Summary.asPaths domain)) := by
  obtain ⟨hlisting, hpaths⟩ := Decoding.select_asPaths h
  rw [decode, decode, asPaths]
  simp only [Trace.outcome_bind, Trace.outcome_liftM, hlisting, hpaths, Outcome.ok_bind,
    entries_object, Trace.outcome_pure, Decoding.decodeAs_asPaths h]
  cases Decoding.domainOf [] o with
  | error e => rfl
  | ok domain =>
    rw [Outcome.ok_bind, Outcome.ok_bind]
    cases (Decoding.decodeAs .listing es o).outcome with
    | error e => rfl
    | ok s => exact congrArg Except.ok (s.grouped_asPaths domain)

/-- A path with two operations of one name and one parameter each. -/
def bookShop : Value.Entries :=
  [(.str "swaggerVersion", .str "1.2"), (.str "consumes", .list [.str "application/json"]),
    (.str "apis", .list [.ofFields [("path", .str "/books"), ("operations", .list [
      .ofFields [("method", .str "get"), ("nickname", .str "fetch"), ("parameters", .list [
        .ofFields [("name", .str "by_title"), ("paramType", .str "query")]])],
      .ofFields [("method", .str "Post"), ("nickname", .str "fetch"), ("parameters", .list [
        .ofFields [("name", .str "title"), ("paramType", .str "form")]])]])]])]

/-- A node with a name and one of the five places is that of a plain parameter. -/
theorem plainParameter_of_place (name : String) {place : String}
    (h : place ∈ ["body", "path", "query", "header", "form"]) :
    PlainParameter (.ofFields [("name", .str name), ("paramType", .str place)]) := by
  have hother : ∀ other ∈ ["in", "$ref", "x-exclude-from-bindings", "x-proxy-header"],
      Scalar.str other ∉ [Scalar.str "name", .str "paramType"] := by decide
  refine ⟨_, rfl, ⟨place, h, rfl⟩, fun other hmem => ?_⟩
  refine lookup_eq_none_of_not_mem fun e he hkey => hother other hmem ?_
  rw [← hkey]
  exact List.mem_map_of_mem (f := (·.1)) he

theorem bookShop_plain : PlainListing bookShop where
  version := rfl
  resources := by
    refine ⟨_, _, rfl, rfl, ?_, by decide⟩
    intro resource hmem
    rw [List.mem_singleton.1 hmem]
    refine ⟨_, _, _, rfl, rfl, rfl, ?_, by decide +kernel⟩
    intro node hmem
    rcases List.mem_cons.1 hmem with rfl | hmem
    · refine ⟨_, rfl, ⟨_, rfl, by decide +kernel⟩, .inl rfl, .inr ⟨_, rfl, ?_⟩⟩
      intro parameter hmem
      rw [List.mem_singleton.1 hmem]
      exact plainParameter_of_place _ (by decide)
    · rw [List.mem_singleton.1 hmem]
      refine ⟨_, rfl, ⟨_, rfl, by decide +kernel⟩, .inl rfl, .inr ⟨_, rfl, ?_⟩⟩
      intro parameter hmem
      rw [List.mem_singleton.1 hmem]
      exact plainParameter_of_place _ (by decide)
  consumes := .inr ⟨["application/json"], rfl⟩
  others := by decide

/-- A listing whose two operations ask for one name decodes, and so does its translation, to the
same outline with the default address. -/
theorem decode_asPaths_bookShop :
    ∃ s, (decode (.object bookShop) {}).outcome = .ok s ∧
      (decode (asPaths (.object bookShop)) {}).outcome =
        .ok (s.asPaths "http://localhost") := by
  obtain ⟨s, hs⟩ : ∃ s, (decode (.object bookShop) {}).outcome = .ok s :=
    Outcome.exists_of_isOk (by decide +kernel)
  have hdomain : Decoding.domainOf [] {} = .ok "http://localhost" := by rfl
  refine ⟨s, hs, ?_⟩
  rw [decode_asPaths bookShop_plain, hdomain, hs]
  rfl

end ApiOutline
