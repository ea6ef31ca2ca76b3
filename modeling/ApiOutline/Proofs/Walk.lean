/-
Decoding is one fold over the operations.

First, what a decoder does with one operation is one addition to the roster. The two decoders are
written apart and only look alike: one registers a name after its punctuation has been replaced
and the other as it is, which comes to the same identifier, and both put the name into the method
when they make it, where it could as well be put in at the end.

Then the walks. A walk through a document folds over resources and their items, or over paths and
their keys, and each level only passes on what the level below does. So it is one fold over all
operations, in document order; and since a walk stops at the first thing it cannot read, a walk
that succeeds has operations to fold over. Together that is `decode_eq_ok`, from which everything
that is said about services, methods and names starts.
-/
import ApiOutline.Proofs.Name.Identifier
import ApiOutline.Proofs.Operations

set_option autoImplicit false

namespace ApiOutline.Decoding

open Outcome

/-! ## One operation -/

/-- Only an object has tags to be filed by, so what was filed has entries, and each of its fields
can be asked for without failing. This is why neither dialect has to expect a failure when it
reads a field of a filed operation. -/
theorem serviceOf_fields {o : Options} {version : Option String} {roster : Roster} {node : Value}
    {filed : Scalar × Service} (h : serviceOf o version roster node = .ok filed) :
    ∃ es : Value.Entries, node.entries = .ok es ∧ ∀ name, node.field name = .ok (es.get name) := by
  rw [serviceOf, serviceTag] at h
  obtain ⟨_, ⟨_, htags, _⟩, _⟩ := by simpa only [bind_eq_ok_iff] using h
  rw [Value.field, Value.fieldAt] at htags
  -- what was filed had its tags read, and only an object lets itself be read
  split at htags
  · next es hopened =>
    refine ⟨es, ?_, fun name => ?_⟩
    · rw [Value.entries, hopened]
    · rw [Value.field, Value.fieldAt, hopened]
      rfl
  · exact nomatch htags

/-- The two dialects find the same identifier, though only one replaces punctuation first. -/
theorem nameOf_normalize (d : Dialect) (service : Service) (raw verb path : Value) :
    ((nameOf d Name.normalize service raw verb path).outcome >>= Name.identifierOfValue) =
      ((nameOf d id service raw verb path).outcome >>= Name.identifierOfValue) := by
  simp only [nameOf, Trace.outcome_bind, Trace.outcome_liftM]
  cases withoutService service raw with
  | error e => rfl
  | ok stated =>
    simp only [ok_bind]
    -- a stated name is normalized or not, a made one is the same in both
    split
    · simp only [Trace.outcome_bind, Trace.outcome_liftM, Trace.outcome_pure, id_eq]
      cases stated.asText with
      | error e => rfl
      | ok name => exact Name.identifierOfValue_normalize name
    · rfl

/-- **An operation of a listing is one addition.** What the decoder tells on the way is left out,
and then it takes the steps that adding consists of, from the service to the parameters. -/
theorem listingOperation_outcome (spec : Value.Entries) (o : Options) (path : Value)
    (roster : Roster) {node verb : Value} (hverb : listingVerb node = .ok verb) :
    (listingOperation spec o (listingHead spec).isSecure path roster node).outcome =
      roster.add .listing spec o none ⟨path, verb, .list [], node⟩ := by
  simp only [listingOperation, Roster.add, Trace.outcome_bind, Trace.outcome_liftM]
  cases hfiled : serviceOf o none roster node with
  | error e => rfl
  | ok filed =>
    obtain ⟨es, hes, hfield⟩ := serviceOf_fields hfiled
    obtain ⟨key, service⟩ := filed
    simp only [ok_bind, hverb, hes, Operation.base, Operation.unnamed, Operation.unnamedListed,
      Dialect.nameField, hfield]
    simp only [register_outcome, map_bind, bind_assoc,
      method_eq_map_renamed _ (Name.freeAmong _ _)]
    -- both do the same in the same order, but for when the name is put in
    simp only [Trace.outcome_mapM, Trace.outcome_pure, Trace.outcome_lift, pure_bind]
    rfl

/-- **An operation of a path is one addition.** Here the decoder normalizes the name that is
stated, which changes nothing about the identifier that is made of it. -/
theorem pathsOperation_outcome (spec : Value.Entries) (o : Options) (version : Option String)
    (path : Scalar) (shared : Value) (verb : String) (roster : Roster) (node : Value) :
    (pathsOperation spec o version path shared verb roster node).outcome =
      roster.add .paths spec o version ⟨.scalar path, .str verb, shared, node⟩ := by
  simp only [pathsOperation, Roster.add, Trace.outcome_bind, Trace.outcome_liftM]
  cases hfiled : serviceOf o version roster node with
  | error e => rfl
  | ok filed =>
    obtain ⟨es, hes, hfield⟩ := serviceOf_fields hfiled
    obtain ⟨key, service⟩ := filed
    simp only [ok_bind, hes, Operation.base, Operation.unnamed, Operation.unnamedKeyed,
      Dialect.nameField, hfield, register_outcome, map_bind,
      method_eq_map_renamed _ (Name.freeAmong _ _)]
    rw [← nameOf_normalize]
    simp only [bind_assoc, Trace.outcome_mapM, Trace.outcome_pure, pure_bind]
    rfl

/-! ## Through a listing -/

section Listing

variable (spec : Value.Entries) (o : Options)

/-- One resource is walked through by adding its operations. Its path is asked for again with each
of them, which makes no difference, as it is the same each time. -/
theorem listingResource_outcome (roster : Roster) {resource : Value} {ops : List Operation}
    (hops : resourceOperations resource = .ok ops) :
    (listingResource spec o (listingHead spec).isSecure roster resource).outcome =
      ops.foldlM (Roster.add .listing spec o none) roster := by
  simp only [resourceOperations, bind_eq_ok_iff] at hops
  obtain ⟨operations, hoperations, nodes, hnodes, hcollect⟩ := hops
  simp only [listingResource, Trace.outcome_bind, Trace.outcome_liftM, hoperations, hnodes, ok_bind,
    Trace.outcome_foldlM]
  -- each node adds the one operation that it is
  refine foldlM_collect (fun roster node cs hcs => ?_) hcollect roster
  simp only [listedOperation, bind_eq_ok_iff] at hcs
  obtain ⟨path, hpath, verb, hverb, hcs⟩ := hcs
  rw [← Except.ok.inj hcs, hpath, ok_bind, listingOperation_outcome spec o path roster hverb,
    List.foldlM_cons]
  exact (bind_pure _).symm

variable {spec o}

/-- An operation of a listing that was decoded has stated its verb. -/
theorem listingOperation_ok {path node : Value} {isSecure : Bool} {roster roster' : Roster}
    (h : (listingOperation spec o isSecure path roster node).outcome = .ok roster') :
    ∃ verb, listingVerb node = .ok verb := by
  simp only [listingOperation, Trace.outcome_bind, Trace.outcome_liftM, bind_eq_ok_iff] at h
  obtain ⟨_, _, _, _, verb, hverb, _⟩ := h
  exact ⟨verb, hverb⟩

/-- A resource that is walked through has operations. -/
theorem resourceOperations_ok {resource : Value} {roster roster' : Roster}
    (h : (listingResource spec o (listingHead spec).isSecure roster resource).outcome =
      .ok roster') : ∃ ops, resourceOperations resource = .ok ops := by
  simp only [listingResource, Trace.outcome_bind, Trace.outcome_liftM, bind_eq_ok_iff,
    Trace.outcome_foldlM] at h
  obtain ⟨nodes, ⟨operations, hoperations, hnodes⟩, hfold⟩ := h
  obtain ⟨ops, hops⟩ := collect_of_foldlM (g := listedOperation resource)
    (fun roster node roster' hstep => by
      obtain ⟨path, hpath, hstep⟩ := bind_eq_ok_iff.1 hstep
      obtain ⟨verb, hverb⟩ := listingOperation_ok hstep
      rw [listedOperation, hpath, hverb]
      exact ⟨_, rfl⟩) hfold
  rw [resourceOperations, hoperations, ok_bind, hnodes]
  exact ⟨ops, hops⟩

/-- **A listing is decoded in one fold over its operations**, between its head, which is checked
first, and its models. That the operations are known beforehand is what makes the walk over
resources a fold over the operations of all of them. -/
theorem decodeListing_outcome {ops : List Operation}
    (hops : operationsAs .listing spec = .ok ops) :
    (decodeListing spec o).outcome = (do
      Value.checkTexts [spec.get "apiVersion", spec.get "title"]
      let summary ← (listingHead spec).summary o
      let roster ← ops.foldlM (Roster.add .listing spec o none) []
      let models ← modelsOf false none (spec.get "models")
      return { summary with services := roster.map (·.2), models }) := by
  simp only [operationsAs, bind_eq_ok_iff] at hops
  obtain ⟨apis, hapis, resources, hresources, hcollect⟩ := hops
  have hsize : apis.size = .ok resources.length := by rw [Value.size, hresources]; rfl
  have hfold := foldlM_collect (fun roster _ _ => listingResource_outcome spec o roster)
    hcollect []
  simp only [decodeListing, Trace.outcome_bind, Trace.outcome_liftM, hapis, hresources, hsize,
    ok_bind, Trace.outcome_tell, Trace.outcome_foldlM, Trace.outcome_pure]
  rw [hfold]
  rfl

end Listing

/-! ## Through the paths -/

/-- An object is as large as it has entries. -/
theorem size_of_entries {v : Value} {es : List (Scalar × Value)} (h : v.entries = .ok es) :
    v.size = .ok es.length := by
  rw [Value.entries] at h
  split at h
  · next fs hopened =>
    rw [← Except.ok.inj h, Value.size, Value.elements, hopened]
    exact congrArg Except.ok (List.length_map ..)
  · exact nomatch h

/-- A text is a verb if its capitals are one of the fixed words, and then it is this word. -/
theorem verbOf_str (s : String) :
    verbOf (.str s) = .ok (if Text.upper s ∈ httpVerbs then some (Text.upper s) else none) := by
  rw [verbOf, spelling, ok_bind, Option.map_some, Option.filter_some]
  simp only [List.contains_iff_mem]
  rfl

/-- A key that is a verb is a text that is one in capitals. -/
theorem exists_of_verbOf {key : Scalar} {verb : String} (h : verbOf key = .ok (some verb)) :
    ∃ s, key = .str s ∧ Text.upper s = verb ∧ verb ∈ httpVerbs := by
  cases key with
  | str s =>
    rw [verbOf_str] at h
    obtain ⟨hmem, hverb⟩ := Option.ite_none_right_eq_some.1 (Except.ok.inj h)
    have hverb : Text.upper s = verb := Option.some.inj hverb
    exact ⟨s, rfl, hverb, hverb ▸ hmem⟩
  | bytes octets => exact nomatch Except.ok.inj h
  | _ => exact nomatch h

/-- The version under which services are filed is the one that the head of the description was
given. -/
theorem serviceVersion_of_pathsHead {spec : Value.Entries} {o : Options} {head : Head}
    (h : pathsHead spec o = .ok head) : serviceVersion .paths spec = .ok head.version := by
  simp only [pathsHead, bind_eq_ok_iff] at h
  obtain ⟨info, hinfo, version, hversion, _, _, _, _, _, _, _, _, _, _, _, _, hhead⟩ := h
  rw [serviceVersion, hinfo, ok_bind, hversion, ← Except.ok.inj hhead]
  rfl

section Paths

variable (spec : Value.Entries) (o : Options) (version : Option String)

/-- What becomes of the roster at one key of a path: nothing, unless the key is a verb, and then
the one operation that stands there is added. The cases are those of the key, since only a text
can be a verb. -/
theorem itemEntry_outcome (path : Scalar) (shared : Value) (roster : Roster)
    {entry : Scalar × Value} {ops : List Operation}
    (hops : operationAt path shared entry = .ok ops) :
    (verbOf entry.1 >>= fun verb => (match verb with
      | none => pure roster
      | some verb => pathsOperation spec o version path shared verb roster entry.2).outcome) =
      ops.foldlM (Roster.add .paths spec o version) roster := by
  obtain ⟨key, node⟩ := entry
  cases key with
  | str s =>
    rw [← Except.ok.inj hops, verbOf_str, ok_bind]
    -- a key that is no verb adds nothing
    by_cases hverb : Text.upper s ∈ httpVerbs
    · rw [if_pos hverb, if_pos hverb, List.foldlM_cons]
      exact (pathsOperation_outcome ..).trans (bind_pure _).symm
    · rw [if_neg hverb, if_neg hverb]
      rfl
  | bytes bs =>
    rw [← Except.ok.inj hops]
    rfl
  | _ => exact nomatch hops

/-- A key whose spelling can be asked for has its operations, one or none. -/
theorem operationAt_ok (path : Scalar) (shared : Value) {entry : Scalar × Value}
    {verb : Option String} (h : verbOf entry.1 = .ok verb) :
    ∃ ops, operationAt path shared entry = .ok ops := by
  obtain ⟨key, node⟩ := entry
  cases key with
  | str s => exact ⟨_, rfl⟩
  | bytes bs => exact ⟨_, rfl⟩
  | _ => exact nomatch h

/-- One path is walked through by adding its operations. -/
theorem pathsItem_outcome (roster : Roster) {entry : Scalar × Value} {ops : List Operation}
    (hops : itemOperations entry = .ok ops) :
    (pathsItem spec o version roster entry).outcome =
      ops.foldlM (Roster.add .paths spec o version) roster := by
  obtain ⟨path, item⟩ := entry
  simp only [itemOperations, bind_eq_ok_iff] at hops
  obtain ⟨entries, hentries, shared, hshared, hcollect⟩ := hops
  simp only [pathsItem, Trace.outcome_bind, Trace.outcome_liftM, hentries, hshared, ok_bind,
    Trace.outcome_foldlM]
  exact foldlM_collect
    (fun roster _ _ => itemEntry_outcome spec o version path shared roster) hcollect roster

variable {spec o version}

/-- A path that is walked through has operations. -/
theorem itemOperations_ok {roster roster' : Roster} {entry : Scalar × Value}
    (h : (pathsItem spec o version roster entry).outcome = .ok roster') :
    ∃ ops, itemOperations entry = .ok ops := by
  obtain ⟨path, item⟩ := entry
  simp only [pathsItem, Trace.outcome_bind, Trace.outcome_liftM, bind_eq_ok_iff,
    Trace.outcome_foldlM] at h
  obtain ⟨entries, hentries, shared, hshared, hfold⟩ := h
  obtain ⟨ops, hops⟩ := collect_of_foldlM (g := operationAt path shared)
    (fun roster entry roster' hstep => by
      obtain ⟨verb, hverb, _⟩ := bind_eq_ok_iff.1 hstep
      exact operationAt_ok path shared hverb) hfold
  rw [itemOperations, hentries, ok_bind, hshared]
  exact ⟨ops, hops⟩

/-- **A description by paths is decoded in one fold over its operations**, in the order of the
paths and of the keys of each path, between its head and its definitions. -/
theorem decodePaths_outcome {ops : List Operation} (hops : operationsAs .paths spec = .ok ops) :
    (decodePaths spec o).outcome = (do
      let head ← pathsHead spec o
      let summary ← head.summary o
      let roster ← ops.foldlM (Roster.add .paths spec o head.version) []
      let models ← modelsOf true head.version (spec.get "definitions")
      return { summary with services := roster.map (·.2), models }) := by
  simp only [operationsAs, bind_eq_ok_iff] at hops
  obtain ⟨items, hitems, hcollect⟩ := hops
  have hfold := fun version => foldlM_collect
    (fun roster _ _ => pathsItem_outcome spec o version roster) hcollect []
  simp only [decodePaths, Trace.outcome_bind, Trace.outcome_liftM, size_of_entries hitems, hitems,
    ok_bind, Trace.outcome_tell, Trace.outcome_foldlM, Trace.outcome_pure, hfold]
  rfl

end Paths

/-! ## Decoding -/

/-- A description that has an outline has operations, and its services are what a run leaves
behind that adds them one by one to an empty roster. The decoders find the operations in different
ways, so each of them is taken apart by itself. -/
theorem decodeAs_ok {d : Dialect} {spec : Value.Entries} {o : Options} {s : Summary}
    (h : (decodeAs d spec o).outcome = .ok s) :
    ∃ ops version roster, operationsAs d spec = .ok ops ∧ serviceVersion d spec = .ok version ∧
      ops.foldlM (Roster.add d spec o version) [] = .ok roster ∧
      s.services = roster.map (·.2) := by
  cases d with
  | listing =>
    -- the run got through, so there are operations to speak of
    have hops : ∃ ops, operationsAs .listing spec = .ok ops := by
      simp only [decodeAs, decodeListing, Trace.outcome_bind, Trace.outcome_liftM, bind_eq_ok_iff,
        Trace.outcome_foldlM] at h
      obtain ⟨_, _, _, _, apis, hapis, _, _, _, _, resources, hresources, roster, hfold, _⟩ := h
      obtain ⟨ops, hops⟩ := collect_of_foldlM (g := resourceOperations)
        (fun _ _ _ => resourceOperations_ok) hfold
      rw [operationsAs, hapis, ok_bind, hresources]
      exact ⟨ops, hops⟩
    obtain ⟨ops, hops⟩ := hops
    rw [decodeAs, decodeListing_outcome hops] at h
    simp only [bind_eq_ok_iff] at h
    obtain ⟨_, _, _, _, roster, hroster, models, _, hs⟩ := h
    refine ⟨ops, none, roster, hops, rfl, hroster, ?_⟩
    rw [← Except.ok.inj hs]
  | paths =>
    have hops : ∃ ops, operationsAs .paths spec = .ok ops := by
      simp only [decodeAs, decodePaths, Trace.outcome_bind, Trace.outcome_liftM, bind_eq_ok_iff,
        Trace.outcome_foldlM] at h
      obtain ⟨_, _, _, _, _, _, _, _, items, hitems, roster, hfold, _⟩ := h
      obtain ⟨ops, hops⟩ := collect_of_foldlM (g := itemOperations)
        (fun _ _ _ => itemOperations_ok) hfold
      rw [operationsAs, hitems, ok_bind]
      exact ⟨ops, hops⟩
    obtain ⟨ops, hops⟩ := hops
    rw [decodeAs, decodePaths_outcome hops] at h
    simp only [bind_eq_ok_iff] at h
    obtain ⟨head, hhead, _, _, roster, hroster, models, _, hs⟩ := h
    refine ⟨ops, head.version, roster, hops, serviceVersion_of_pathsHead hhead, hroster, ?_⟩
    rw [← Except.ok.inj hs]

/-- **Decoding is one fold over the operations of the description.** Whatever is said about
services starts from here. The parameters are put in groups at the very end, in all services
alike. -/
theorem decode_eq_ok {spec : Value} {o : Options} {s : Summary}
    (h : (decode spec o).outcome = .ok s) :
    ∃ d entries ops version roster,
      spec.entries = .ok entries ∧ operations spec = .ok (d, ops) ∧
      serviceVersion d entries = .ok version ∧
      ops.foldlM (Roster.add d entries o version) [] = .ok roster ∧
      s.services = (roster.map (·.2)).map Service.grouped := by
  simp only [decode, Trace.outcome_bind, Trace.outcome_liftM, bind_eq_ok_iff] at h
  obtain ⟨d, hd, entries, hentries, summary, hsummary, hs⟩ := h
  obtain ⟨ops, version, roster, hops, hversion, hroster, hservices⟩ := decodeAs_ok hsummary
  have hoperations : operations spec = .ok (d, ops) :=
    operations_eq_ok_iff.2 ⟨entries, hd, hentries, hops⟩
  refine ⟨d, entries, ops, version, roster, hentries, hoperations, hversion, hroster, ?_⟩
  rw [← Except.ok.inj hs, Summary.grouped, hservices]

end ApiOutline.Decoding
