/-
What each option decides.

A caller says seven things, and each of them is asked for in one place. The names of the module and
of the service and the imports go into the head of the outline. The name of the service is asked for
once more, for operations without a tag of their own. Host and scheme make up the address of a
description by paths, where it names none itself, and the two switches decide about references and
about parameters for a proxy.

So a change of options is seen nowhere but in the head of the outline if it is not seen in any of
these places (`SameWork`), and that is a question about the nodes of the description and not about
how the decoder goes through them. The walk is done once, for all of the options
(`decode_eq_map`), and what each option governs is then read off (`Confined`). What is compared is
whole runs, so the failures and everything that is told on the way are the same too.
-/
import ApiOutline.Proofs.Frame

set_option autoImplicit false

namespace ApiOutline

/-! ## Options that are of the right types -/

namespace Options

/-- Texts for the names, for host and scheme and as imports, any of which may be left out, and truth
values for the switches. -/
structure WellTyped (o : Options) : Prop where
  moduleName : o.moduleName.IsTextOrNull
  serviceName : o.serviceName.IsTextOrNull
  imports : o.imports = .null ∨ ∃ names : List String, o.imports = .list (names.map .str)
  host : o.host.IsTextOrNull
  schema : o.schema.IsTextOrNull
  strictRefs : ∃ b : Bool, o.strictRefs = .bool b
  proxyHeaders : ∃ b : Bool, o.proxyHeaders = .bool b

/-- The imports as texts. -/
def importTexts? (o : Options) : Option (List String) :=
  match o.imports with
  | .list names => some (names.map Value.text)
  | _ => none

end Options

/-- The outline with a head as these options ask for it. -/
def Summary.askedFor (o : Options) (s : Summary) : Summary :=
  { s with
    moduleName := o.moduleName.text?
    serviceName := o.serviceName.text?
    imports := o.importTexts? }

namespace Reading

/-- A text is read as itself and null as nothing, with no problem in either case. -/
theorem text?_of_isTextOrNull {v : Value} (h : v.IsTextOrNull) (name : String) :
    text? name v = .of v.text? := by
  rcases h with rfl | ⟨s, rfl⟩
  · rfl
  · rfl

/-- A list of texts is read as it stands. -/
theorem all_texts (field : String) (names : List String) (k : Nat) :
    all (((names.map Value.str).zipIdx k).map fun (v, i) =>
      check [.key field, .index i] "" (Mismatch.text v)) = of names := by
  induction names generalizing k with
  | nil => rfl
  | cons name names ih =>
    rw [List.map_cons, List.zipIdx_cons, List.map_cons, all, ih (k + 1)]
    rfl

/-- The imports of well-typed options are read as they stand, whatever field they go into. -/
theorem texts?_imports {o : Options} (h : o.WellTyped) (field : String) :
    texts? field o.imports = of o.importTexts? := by
  rcases h.imports with hnull | ⟨names, hnames⟩
  · rw [Options.importTexts?, hnull]
    rfl
  · have htexts : (names.map Value.str).map Value.text = names := by
      rw [List.map_map]
      exact List.map_id names
    rw [Options.importTexts?, hnames]
    dsimp only
    rw [htexts]
    exact congrArg (map some) (all_texts field names 0)

end Reading

namespace Decoding

open Value
open Outcome (bind_eq_ok_iff)

/-- What a caller asks for in the head is put there, and nothing else in it depends on it. -/
theorem summary_askedFor {o : Options} (h : o.WellTyped) (head : Head) :
    head.summary o = Summary.askedFor o <$> head.summary {} := by
  rw [Head.summary, Head.summary, Reading.text?_of_isTextOrNull h.moduleName,
    Reading.text?_of_isTextOrNull h.serviceName, Reading.texts?_imports h]
  refine Eq.trans ?_ (Reading.record_map ..).symm
  rfl

/-! ## Where options are asked for -/

/-- What is gone through as an operation of a description: an item of a resource, or what stands
under a verb of a path. -/
inductive NodeOf (spec : Value.Entries) : Dialect → Value → Prop where
  | listed {apis resource operations node : Value} {resources nodes : List Value}
      (hapis : (object spec).entry "apis" = .ok apis) (hresources : apis.elements = .ok resources)
      (hresource : resource ∈ resources)
      (hoperations : resource.entry "operations" = .ok operations)
      (hnodes : operations.elements = .ok nodes) (hnode : node ∈ nodes) : NodeOf spec .listing node
  | keyed {items item : Value.Entries} {e : Scalar × Value} {key : String} {node : Value}
      (hitems : ((spec.get "paths").orElse (.object [])).entries = .ok items) (he : e ∈ items)
      (hitem : e.2.entries = .ok item) (hnode : (.str key, node) ∈ item)
      (hverb : Text.upper key ∈ httpVerbs) : NodeOf spec .paths node

/-- The nodes of parameters in a description by paths: those of an operation, and those that a path
states for all of its operations. -/
inductive ParameterNode (spec : Value.Entries) : Value → Prop where
  | own {operation node : Value} {entries : Value.Entries} {nodes : List Value}
      (hoperation : NodeOf spec .paths operation) (hentries : operation.entries = .ok entries)
      (hnodes : (entries.get "parameters").opened = .list nodes) (hnode : node ∈ nodes) :
      ParameterNode spec node
  | shared {items item : Value.Entries} {e : Scalar × Value} {shared node : Value}
      {nodes : List Value}
      (hitems : ((spec.get "paths").orElse (.object [])).entries = .ok items) (he : e ∈ items)
      (hitem : e.2.entries = .ok item) (hshared : sharedParameters item = .ok shared)
      (hnodes : shared.elements = .ok nodes) (hnode : node ∈ nodes) : ParameterNode spec node

/-- Two options come to the same wherever the decoder of a dialect asks for them on its way through
a description. -/
structure SameWork (d : Dialect) (spec : Value.Entries) (o o' : Options) : Prop where
  filed : ∀ node, NodeOf spec d node → serviceTag o' node = serviceTag o node
  domain : d = .paths → domainOf spec o' = domainOf spec o
  strict : d = .paths → o'.strictRefs.truthy = o.strictRefs.truthy
  leftOut : d = .paths → ∀ node, ParameterNode spec node → isLeftOut o' node = isLeftOut o node

/-! ## The walk -/

section Operation

variable {o o' : Options} {node : Value} (hfiled : serviceTag o' node = serviceTag o node)

include hfiled

/-- Options enter the search for a service through the tag only, so those that give an operation
the same tag file it alike. -/
theorem serviceOf_eq_of_tag (version : Option String) (roster : Roster) :
    serviceOf o' version roster node = serviceOf o version roster node := by
  rw [serviceOf, serviceOf, hfiled]

/-- An operation of a listing asks for options nowhere but for its tag. -/
theorem listingOperation_eq_of_tag (spec : Value.Entries) (isSecure : Bool) (path : Value)
    (roster : Roster) :
    listingOperation spec o' isSecure path roster node =
      listingOperation spec o isSecure path roster node := by
  rw [listingOperation, listingOperation, serviceOf_eq_of_tag hfiled]

end Operation

/-- Where a node is kept or left out by both and references are treated alike, its parameter is the
same. -/
theorem pathsParameter_eq_of_leftOut {o o' : Options} {node : Value}
    (hstrict : o'.strictRefs.truthy = o.strictRefs.truthy)
    (hleftOut : isLeftOut o' node = isLeftOut o node) (spec : Value.Entries) (place : String) :
    pathsParameter spec o' place node = pathsParameter spec o place node := by
  simp only [pathsParameter, resolve, hstrict, hleftOut]

section Walk

variable {spec : Value.Entries} {o o' : Options}

/-- One resource of a listing: each of its operations is one of the nodes about which the options
agree. -/
theorem listingResource_eq_of_sameWork (h : SameWork .listing spec o o') {apis resource : Value}
    {resources : List Value} (hapis : (object spec).entry "apis" = .ok apis)
    (hresources : apis.elements = .ok resources) (hresource : resource ∈ resources)
    (isSecure : Bool) (roster : Roster) :
    listingResource spec o' isSecure roster resource =
      listingResource spec o isSecure roster resource := by
  rw [listingResource, listingResource]
  refine Trace.bind_congr_ok fun nodes hoperations => ?_
  obtain ⟨operations, hoperations, hnodes⟩ := bind_eq_ok_iff.1 hoperations
  refine Trace.foldlM_congr (fun roster node hnode => ?_) roster
  have hfiled := h.filed node (.listed hapis hresources hresource hoperations hnodes hnode)
  simp only [listingOperation_eq_of_tag hfiled]

/-- **One operation of a description by paths.** Its tag is the same by one assumption. Its
parameters are the same by the two others, for they are made from nodes of the operation or of its
path. -/
theorem pathsOperation_eq_of_sameWork (h : SameWork .paths spec o o') {items item : Value.Entries}
    {e : Scalar × Value} {shared node : Value} {key : String}
    (hitems : ((spec.get "paths").orElse (.object [])).entries = .ok items) (he : e ∈ items)
    (hitem : e.2.entries = .ok item) (hshared : sharedParameters item = .ok shared)
    (hnode : (.str key, node) ∈ item) (hverb : Text.upper key ∈ httpVerbs)
    (version : Option String) (path : Scalar) (verb : String) (roster : Roster) :
    pathsOperation spec o' version path shared verb roster node =
      pathsOperation spec o version path shared verb roster node := by
  have hoperation : NodeOf spec .paths node := .keyed hitems he hitem hnode hverb
  rw [pathsOperation, pathsOperation, serviceOf_eq_of_tag (h.filed node hoperation)]
  refine bind_congr fun filed => Trace.bind_congr_ok fun operation hoperation' => ?_
  refine bind_congr fun name => bind_congr fun name => bind_congr fun method => ?_
  refine bind_congr fun media => Trace.bind_congr_ok fun nodes hnodes => ?_
  -- the nodes are the operation's own and behind them those of its path
  have hparameter : ∀ parameter ∈ nodes, ParameterNode spec parameter := by
    intro parameter hparameter
    obtain ⟨others, hothers, hnodes⟩ := bind_eq_ok_iff.1 hnodes
    rw [← Except.ok.inj hnodes] at hparameter
    rcases List.mem_append.1 hparameter with hown | hother
    · split at hown
      · next own hown' => exact .own hoperation hoperation' hown' hown
      · exact absurd hown List.not_mem_nil
    · exact .shared hitems he hitem hshared hothers hother
  -- so parameter by parameter the same is done
  have hsame : ∀ place, nodes.mapM (pathsParameter spec o' place) =
      nodes.mapM (pathsParameter spec o place) := by
    intro place
    refine Trace.mapM_congr fun parameter hmem => ?_
    have hleftOut := h.leftOut rfl parameter (hparameter parameter hmem)
    exact pathsParameter_eq_of_leftOut (h.strict rfl) hleftOut spec place
  rw [hsame]

/-- All operations of one path. A key that is no verb holds no operation, so nothing is assumed
about what stands there. -/
theorem pathsItem_eq_of_sameWork (h : SameWork .paths spec o o') {items : Value.Entries}
    {e : Scalar × Value} (hitems : ((spec.get "paths").orElse (.object [])).entries = .ok items)
    (he : e ∈ items) (version : Option String) (roster : Roster) :
    pathsItem spec o' version roster e = pathsItem spec o version roster e := by
  obtain ⟨path, item⟩ := e
  rw [pathsItem, pathsItem]
  refine Trace.bind_congr_ok fun entries hentries => ?_
  refine Trace.bind_congr_ok fun shared hshared => ?_
  refine Trace.foldlM_congr (fun roster f hf => ?_) roster
  obtain ⟨key, node⟩ := f
  refine Trace.bind_congr_ok fun verb hverb => ?_
  cases verb with
  | none => rfl
  | some verb =>
    obtain ⟨key, rfl, rfl, hmem⟩ := exists_of_verbOf hverb
    exact pathsOperation_eq_of_sameWork h hitems he hentries hshared hf hmem ..

end Walk

/-! ## The outline -/

/-- A change of the head: it is what makes the head of the one options of that of the others, and it
leaves services and models as they are. -/
structure ChangesHead (o o' : Options) (f : Summary → Summary) : Prop where
  head : ∀ head : Head, head.summary o' = f <$> head.summary o
  rest : ∀ (s : Summary) (services : List Service) (models : List Model),
    f { s with services, models } = { f s with services, models }

section Outline

variable {o o' : Options} {f : Summary → Summary} (hf : ChangesHead o o' f)

include hf

/-- Putting parameters into groups is a matter of the services, and a change of the head leaves
these alone. -/
theorem ChangesHead.grouped (s : Summary) : f s.grouped = (f s).grouped := by
  have hservices : (f s).services = s.services := by rw [hf.rest s s.services s.models]
  have hmodels : (f s).models = s.models := by rw [hf.rest s s.services s.models]
  rw [Summary.grouped, Summary.grouped, hservices]
  refine (hf.rest s (s.services.map Service.grouped) s.models).trans ?_
  rw [← hmodels]

/-- A listing is gone through in the same way, with a head that is changed at the beginning and
carried along. -/
theorem decodeListing_eq_map {spec : Value.Entries} (h : SameWork .listing spec o o') :
    decodeListing spec o' = f <$> decodeListing spec o := by
  rw [decodeListing, decodeListing, map_bind]
  refine bind_congr fun _ => ?_
  dsimp only
  rw [hf.head, Trace.liftM_map, bind_map_left]
  simp only [map_bind]
  refine bind_congr fun summary => Trace.bind_congr_ok fun apis hapis => ?_
  refine bind_congr fun count => bind_congr fun _ => ?_
  refine Trace.bind_congr_ok fun resources hresources => ?_
  -- resource by resource, each of which is one of the elements that were asked for
  have hfold : resources.foldlM (listingResource spec o' (listingHead spec).isSecure) [] =
      resources.foldlM (listingResource spec o (listingHead spec).isSecure) [] :=
    Trace.foldlM_congr (fun roster resource hresource =>
      listingResource_eq_of_sameWork h hapis hresources hresource _ roster) []
  rw [hfold]
  refine bind_congr fun roster => bind_congr fun models => ?_
  rw [map_pure]
  exact congrArg pure (hf.rest summary (roster.map (·.2)) models).symm

/-- A description by paths likewise. Its address is part of the head that both options start from.
-/
theorem decodePaths_eq_map {spec : Value.Entries} (h : SameWork .paths spec o o') :
    decodePaths spec o' = f <$> decodePaths spec o := by
  have hhead : pathsHead spec o' = pathsHead spec o := by
    rw [pathsHead, pathsHead, h.domain rfl]
  rw [decodePaths, decodePaths, hhead]
  rw [map_bind]
  refine bind_congr fun head => ?_
  rw [hf.head, Trace.liftM_map, bind_map_left]
  simp only [map_bind]
  refine bind_congr fun summary => bind_congr fun count => bind_congr fun _ => ?_
  refine Trace.bind_congr_ok fun items hitems => ?_
  have hfold : items.foldlM (pathsItem spec o' head.version) [] =
      items.foldlM (pathsItem spec o head.version) [] :=
    Trace.foldlM_congr (fun roster e he =>
      pathsItem_eq_of_sameWork h hitems he head.version roster) []
  rw [hfold]
  refine bind_congr fun roster => bind_congr fun models => ?_
  rw [map_pure]
  exact congrArg pure (hf.rest summary (roster.map (·.2)) models).symm

/-- **Options that come to the same on the way make the same outline but for its head.** -/
theorem decode_eq_map {spec : Value}
    (h : ∀ d entries, (select spec).outcome = .ok d → spec.entries = .ok entries →
      SameWork d entries o o') : decode spec o' = f <$> decode spec o := by
  rw [decode, decode]
  simp only [map_bind]
  refine Trace.bind_congr_ok fun d hd => Trace.bind_congr_ok fun entries hentries => ?_
  -- from here on each decoder goes its own way
  have hsame : decodeAs d entries o' = f <$> decodeAs d entries o := by
    have hwork := h d entries hd hentries
    cases d with
    | listing => exact decodeListing_eq_map hf hwork
    | paths => exact decodePaths_eq_map hf hwork
  rw [hsame, bind_map_left]
  exact bind_congr fun summary => by rw [map_pure, hf.grouped]

end Outline

/-! ## Hosts that say all of an address -/

/-- A text in which a scheme is found in front of the colon is not empty. -/
theorem truthy_of_cut {host : String} {c : Char} {scheme rest : List Char}
    (h : Text.cutAt? "://".toList host.toList = some (c :: scheme, rest)) :
    (Value.str host).truthy = true := by
  refine bne_iff_ne.2 ?_
  rintro rfl
  exact nomatch h

/-- A host that counts as present is asked for, whatever host the caller names. -/
theorem domainOf_of_host {spec : Value.Entries} (h : (spec.get "host").truthy = true)
    (o : Options) (host : Value) : domainOf spec { o with host } = domainOf spec o := by
  simp only [domainOf, Value.orElse, if_pos h]
  rfl

/-- A host that names a scheme needs no other, from wherever it would come. -/
theorem domainOf_of_scheme {spec : Value.Entries} {host : String} {c : Char}
    {scheme rest : List Char} (hhost : spec.get "host" = .str host)
    (hcut : Text.cutAt? "://".toList host.toList = some (c :: scheme, rest)) (o : Options) :
    domainOf spec o = .ok (String.ofList (c :: scheme) ++ "://" ++ String.ofList rest) := by
  rw [domainOf, hhost, Value.orElse, if_pos (truthy_of_cut hcut)]
  simp only [Value.asText, Outcome.ok_bind, hcut]
  rfl

/-- Schemes are asked for in the address and nowhere else. So if the domain is the same, whatever
it is made of, the whole run is the same, with all that is told. -/
theorem decode_eq_of_schemes {a b : Value.Entries} {o : Options} (h : AgreeBut "schemes" a b)
    (hpaths : (select (.object a)).outcome = .ok .paths) (hdomain : domainOf a o = domainOf b o) :
    decode (.object b) o = decode (.object a) o := by
  have hget : ∀ name, name ≠ "schemes" → b.get name = a.get name := fun _ => h.symm.get_eq
  have hmedia : ∀ operation, mediaOf b operation = mediaOf a operation := fun operation =>
    mediaOf_congr (hget "produces" (by decide)) (hget "consumes" (by decide)) rfl rfl
  have hparameter := pathsParameter_congr o (hget "parameters" (by decide))
  -- nothing that is asked for on the way through the paths is among the schemes
  have hitem : pathsItem b o = pathsItem a o := by
    funext version roster e
    simp only [pathsItem, pathsOperation, hmedia, hget "security" (by decide), hparameter]
  have hhead : pathsHead b o = pathsHead a o :=
    (pathsHead_eq_of_domain (by decide) h o hdomain).symm
  have hdecode : decodePaths b o = decodePaths a o := by
    simp only [decodePaths, hhead, hget "paths" (by decide), hget "definitions" (by decide), hitem]
  rw [decode, decode, ← select_eq_of_agree (by decide) h]
  refine Trace.bind_congr_ok fun d hd => ?_
  obtain rfl : d = .paths := Except.ok.inj (hd.symm.trans hpaths)
  exact congrArg (· >>= fun summary => pure summary.grouped) hdecode

/-! ## What each option governs -/

/-- An operation has a tag of its own: a list of tags whose first one counts as present. -/
def IsTagged (node : Value) : Prop :=
  ∃ (tags tag : Value) (rest : List Value), node.field "tags" = .ok tags ∧
    tags.opened = .list (tag :: rest) ∧ tag.truthy = true

/-- An operation with a tag of its own is filed under it, whatever the options say. -/
theorem serviceTag_of_isTagged {node : Value} (h : IsTagged node) :
    ∃ tag, ∀ o, serviceTag o node = .ok tag := by
  obtain ⟨tags, tag, rest, htags, hopened, htag⟩ := h
  have hpresent : tags.truthy = true := by
    cases tags with
    | list items =>
      rw [Value.list.inj hopened]
      rfl
    | again v => rfl
    | _ => exact nomatch hopened
  have hfirst : tags.first = .ok tag := by
    rw [Value.first, hopened]
    rfl
  refine ⟨tag, fun o => ?_⟩
  rw [serviceTag, htags, Outcome.ok_bind]
  dsimp only
  rw [if_pos hpresent, hfirst, Outcome.ok_bind, Value.orElse, if_pos htag]
  rfl

/-- A node that is not for a proxy is kept or left out whatever is said about proxies. -/
theorem isLeftOut_of_no_proxy {node : Value}
    (h : ∀ header, node.field "x-proxy-header" = .ok header → header.truthy = false)
    (o : Options) (proxyHeaders : Value) :
    isLeftOut { o with proxyHeaders } node = isLeftOut o node := by
  rw [isLeftOut, isLeftOut]
  refine bind_congr fun excluded => ?_
  split
  · rfl
  · refine Outcome.bind_congr_ok fun header hheader => ?_
    rw [h header hheader]
    rfl

/-- Well-typed options change the head as the outline is asked for by them, so it is enough to say
how that differs between the two. -/
theorem changesHead_of_askedFor {o o' : Options} {f : Summary → Summary} (h : o.WellTyped)
    (h' : o'.WellTyped) (hf : ∀ s : Summary, s.askedFor o' = f (s.askedFor o))
    (hrest : ∀ (s : Summary) (services : List Service) (models : List Model),
      f { s with services, models } = { f s with services, models }) : ChangesHead o o' f := by
  refine ⟨fun head => ?_, hrest⟩
  have hcomp : Summary.askedFor o' = f ∘ Summary.askedFor o := funext hf
  rw [summary_askedFor h' head, summary_askedFor h head, hcomp, comp_map]

/-- Options that ask for the same head and come to the same on the way make the same outline. -/
theorem decode_eq_of_sameWork {o o' : Options} {spec : Value}
    (hhead : ∀ head : Head, head.summary o' = head.summary o)
    (h : ∀ d entries, (select spec).outcome = .ok d → spec.entries = .ok entries →
      SameWork d entries o o') : decode spec o' = decode spec o := by
  have hid : ChangesHead o o' id := ⟨fun head => by rw [hhead, id_map], fun _ _ _ => rfl⟩
  rw [decode_eq_map hid h, id_map]

section Parts

variable {spec : Value} {es : Value.Entries} {o : Options}

/-- The name of the module and the imports are seen in the head, and nothing on the way asks for
them. -/
theorem decode_otherModule (h : o.WellTyped) {moduleName imports : Value}
    (h' : { o with moduleName, imports : Options }.WellTyped) :
    decode spec { o with moduleName, imports } =
      (fun s => { s with
        moduleName := moduleName.text?
        imports := Options.importTexts? { o with moduleName, imports } }) <$> decode spec o := by
  refine decode_eq_map (changesHead_of_askedFor h h' (fun _ => rfl) fun _ _ _ => rfl) ?_
  intro d entries _ _
  exact ⟨fun _ _ => rfl, fun _ => rfl, fun _ => rfl, fun _ _ _ => rfl⟩

/-- A listing has an address of its own, its references are names of models, and all of its
parameters are kept. -/
theorem decode_listing_other (hd : (select spec).outcome = .ok .listing) (o : Options)
    (host schema strictRefs proxyHeaders : Value) :
    decode spec { o with host, schema, strictRefs, proxyHeaders } = decode spec o := by
  refine decode_eq_of_sameWork (fun _ => rfl) ?_
  intro d entries hd' _
  obtain rfl : .listing = d := Except.ok.inj (hd.symm.trans hd')
  have hdialect : ∀ p : Prop, Dialect.listing = .paths → p := fun _ h => nomatch h
  exact ⟨fun _ _ => rfl, hdialect _, hdialect _, hdialect _⟩

/-- A host of the caller's is not asked for where the description names one, as the address is
made from that one. -/
theorem decode_otherHost (hhost : (es.get "host").truthy = true) (o : Options) (host : Value) :
    decode (.object es) { o with host } = decode (.object es) o := by
  refine decode_eq_of_sameWork (fun _ => rfl) ?_
  intro d entries _ hentries
  obtain rfl := Except.ok.inj hentries
  exact ⟨fun _ _ => rfl, fun _ => domainOf_of_host hhost o host, fun _ => rfl, fun _ _ _ => rfl⟩

/-- Where the host brings its scheme along, the address is made of the host alone. So neither the
caller's scheme nor those of the description are asked for. -/
theorem decode_ownScheme {es' : Value.Entries} {name : String} {c : Char} {scheme rest : List Char}
    (hd : (select (.object es)).outcome = .ok .paths) (hname : es.get "host" = .str name)
    (hcut : Text.cutAt? "://".toList name.toList = some (c :: scheme, rest))
    (hagree : AgreeBut "schemes" es es') (o : Options) (host schema : Value) :
    decode (.object es') { o with host, schema } = decode (.object es) o := by
  have hname' : es'.get "host" = .str name := by
    rw [← hname]
    exact hagree.symm.get_eq (by decide)
  -- first the options are changed, and then the schemes of the description
  have hoptions : decode (.object es) { o with host, schema } = decode (.object es) o := by
    refine decode_eq_of_sameWork (fun _ => rfl) ?_
    intro d entries _ hentries
    obtain rfl := Except.ok.inj hentries
    refine ⟨fun _ _ => rfl, fun _ => ?_, fun _ => rfl, fun _ _ _ => rfl⟩
    rw [domainOf_of_scheme hname hcut, domainOf_of_scheme hname hcut]
  rw [← hoptions]
  refine decode_eq_of_schemes hagree hd ?_
  rw [domainOf_of_scheme hname hcut, domainOf_of_scheme hname' hcut]

/-- Where all operations have a tag, the name of the service files none of them and is left for
the head. -/
theorem decode_tagged (h : o.WellTyped) {serviceName : Value}
    (h' : { o with serviceName : Options }.WellTyped)
    (htagged : ∀ d es, (select spec).outcome = .ok d → spec.entries = .ok es →
      ∀ node, NodeOf es d node → IsTagged node) :
    decode spec { o with serviceName } =
      (fun s => { s with serviceName := serviceName.text? }) <$> decode spec o := by
  refine decode_eq_map (changesHead_of_askedFor h h' (fun _ => rfl) fun _ _ _ => rfl) ?_
  intro d entries hd hentries
  refine ⟨fun node hnode => ?_, fun _ => rfl, fun _ => rfl, fun _ _ _ => rfl⟩
  obtain ⟨tag, htag⟩ := serviceTag_of_isTagged (htagged d entries hd hentries node hnode)
  rw [htag, htag]

/-- The switch for proxies is asked for behind the mark of a parameter for one. Where there is no
such mark it decides nothing. -/
theorem decode_noProxy (hproxy : ∀ es, (select spec).outcome = .ok .paths → spec.entries = .ok es →
      ∀ node, ParameterNode es node → ∀ header, node.field "x-proxy-header" = .ok header →
        header.truthy = false) (o : Options) (proxyHeaders : Value) :
    decode spec { o with proxyHeaders } = decode spec o := by
  refine decode_eq_of_sameWork (fun _ => rfl) ?_
  intro d entries hd hentries
  refine ⟨fun _ _ => rfl, fun _ => rfl, fun _ => rfl, ?_⟩
  rintro rfl node hnode
  exact isLeftOut_of_no_proxy (hproxy entries hd hentries node hnode) o proxyHeaders

end Parts

/-- What follows for two options from what they differ in. -/
structure Confined (spec : Value) (o o' : Options) : Prop where
  /-- The name of the module and the imports are put into the head of the outline. -/
  head : o' = { o with moduleName := o'.moduleName, imports := o'.imports } →
    decode spec o' =
      (fun s => { s with moduleName := o'.moduleName.text?, imports := o'.importTexts? }) <$>
        decode spec o
  /-- Host, scheme and the switches are for descriptions by paths only. -/
  listing : (select spec).outcome = .ok .listing →
    o' = { o with
      host := o'.host
      schema := o'.schema
      strictRefs := o'.strictRefs
      proxyHeaders := o'.proxyHeaders } →
    decode spec o' = decode spec o
  /-- The host counts only where the description names none. -/
  host : ∀ es : Value.Entries, spec = .object es → (select spec).outcome = .ok .paths →
    (es.get "host").truthy = true → o' = { o with host := o'.host } →
    decode spec o' = decode spec o
  /-- Where the host of a description comes with a scheme, no other scheme counts, neither one of
  the caller nor those of the description. -/
  ownScheme : ∀ (es es' : Value.Entries) (host : String) (c : Char) (scheme rest : List Char),
    spec = .object es → (select spec).outcome = .ok .paths → es.get "host" = .str host →
    Text.cutAt? "://".toList host.toList = some (c :: scheme, rest) → AgreeBut "schemes" es es' →
    o' = { o with host := o'.host, schema := o'.schema } →
    decode (.object es') o' = decode spec o
  /-- Where all operations have a tag, the name of the service is put into the head. -/
  tagged : (∀ d es, (select spec).outcome = .ok d → spec.entries = .ok es →
      ∀ node, NodeOf es d node → IsTagged node) →
    o' = { o with serviceName := o'.serviceName } →
    decode spec o' = (fun s => { s with serviceName := o'.serviceName.text? }) <$> decode spec o
  /-- Where no parameter is for a proxy, it makes no difference whether such ones are kept. -/
  noProxy : (∀ es, (select spec).outcome = .ok .paths → spec.entries = .ok es →
      ∀ node, ParameterNode es node → ∀ header, node.field "x-proxy-header" = .ok header →
        header.truthy = false) →
    o' = { o with proxyHeaders := o'.proxyHeaders } → decode spec o' = decode spec o

/-- **No option has a say in what it does not govern.** Whole runs are compared, with their
failures and what is told on the way: two runs of one description, of which one has other values
for the options in question. Each part names the options that may differ, and what follows from it
for the runs, for every description and all options of the right types. -/
theorem confined_of_wellTyped {o o' : Options} (h : o.WellTyped) (h' : o'.WellTyped)
    (spec : Value) : Confined spec o o' where
  head := by
    intro ho
    rw [ho] at h' ⊢
    exact decode_otherModule h h'
  listing := by
    intro hd ho
    rw [ho]
    exact decode_listing_other hd o o'.host o'.schema o'.strictRefs o'.proxyHeaders
  host := by
    rintro es rfl _ hhost ho
    rw [ho]
    exact decode_otherHost hhost o o'.host
  ownScheme := by
    rintro es es' name c scheme rest rfl hd hname hcut hagree ho
    rw [ho]
    exact decode_ownScheme hd hname hcut hagree o o'.host o'.schema
  tagged := by
    intro htagged ho
    rw [ho] at h' ⊢
    exact decode_tagged h h' htagged
  noProxy := by
    intro hproxy ho
    rw [ho]
    exact decode_noProxy hproxy o o'.proxyHeaders

/-- A library that names its host with a scheme. -/
def cityLibrary : Value.Entries :=
  [(.str "swagger", .str "2.0"), (.str "info", .object []), (.str "host", .str "wss://books.city"),
    (.str "schemes", .list [.str "https"]), (.str "paths", .ofFields [
      ("/books", .ofFields [("get", .ofFields [("operationId", .str "fetch")])])])]

/-- A description whose host brings its scheme along decodes to the same with other schemes in it,
and with the caller's host and scheme. -/
theorem confined_of_wellTyped_cityLibrary :
    let o' : Options := { host := .str "example.org", schema := .str "ftp" }
    ({} : Options).WellTyped ∧ o'.WellTyped ∧ (decode (.object cityLibrary) {}).outcome.isOk ∧
      decode (.object (cityLibrary.set "schemes" .null)) o' = decode (.object cityLibrary) {} := by
  intro o'
  have hplain : ({} : Options).WellTyped :=
    ⟨.inl rfl, .inl rfl, .inl rfl, .inl rfl, .inl rfl, ⟨false, rfl⟩, ⟨false, rfl⟩⟩
  have hother : o'.WellTyped :=
    ⟨.inl rfl, .inl rfl, .inl rfl, .inr ⟨_, rfl⟩, .inr ⟨_, rfl⟩, ⟨false, rfl⟩, ⟨false, rfl⟩⟩
  refine ⟨hplain, hother, by decide +kernel, ?_⟩
  exact (confined_of_wellTyped hplain hother (.object cityLibrary)).ownScheme cityLibrary _
    "wss://books.city" 'w' ['s', 's'] "books.city".toList rfl rfl rfl (by decide +kernel)
    (agreeBut_set cityLibrary "schemes" .null) rfl

end Decoding

end ApiOutline
