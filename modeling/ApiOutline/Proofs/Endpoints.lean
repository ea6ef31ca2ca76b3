/-
Where the methods of an outline stand.

A method stands at a path and has a verb. Both are those of its operation, so the methods of an
outline stand where the operations of the description do, as often as they do, but in another order,
since methods come service by service (`decode_endpoints`). Whether two of them stand at the same
place is thereby a question about the description.

In a description by paths an operation is a key of a path that is a verb in some case. So its verb
is one of those, and two operations can stand at the same place only if one path has two keys that
differ in case. A listing is not looked through: its operations have any verbs, and the same one as
often as it is listed (`not_oneEach`).
-/
import ApiOutline.Proofs.Methods
import Mathlib.Data.List.Perm.Basic

set_option autoImplicit false

namespace ApiOutline

/-- Path and verb of every method, service by service. -/
def Summary.endpoints (s : Summary) : List (String × String) :=
  s.services.flatMap fun service => service.methods.map fun m => (m.path, m.verb)

namespace Decoding

open Outcome

/-! ## One method for each operation -/

/-- Path and verb of an operation, as they read. -/
def Operation.StandsAt (op : Operation) (endpoint : String × String) : Prop :=
  Mismatch.text op.path = .ok endpoint.1 ∧ Mismatch.text op.verb = .ok endpoint.2

/-- An operation stands at one place, since its path and its verb are read as one text each. -/
theorem Operation.standsAt_unique {op : Operation} {e f : String × String} (he : op.StandsAt e)
    (hf : op.StandsAt f) : e = f :=
  Prod.ext (Except.ok.inj (he.1.symm.trans hf.1)) (Except.ok.inj (he.2.symm.trans hf.2))

/-- Grouping by a key keeps every element. The keys have to be different, or else elements are
doubled. The induction is on the keys: what goes to the first of them is in no other group. -/
theorem flatMap_filter_perm {α κ : Type} [DecidableEq κ] {f : α → κ} {keys : List κ} {xs : List α}
    (hkeys : keys.Nodup) (h : ∀ x ∈ xs, f x ∈ keys) :
    (keys.flatMap fun key => xs.filter (f · = key)).Perm xs := by
  induction keys generalizing xs with
  | nil =>
    have hnone : xs = [] := List.eq_nil_iff_forall_not_mem.2 fun x hx => absurd (h x hx) (by simp)
    rw [hnone]
    exact .nil
  | cons key keys ih =>
    obtain ⟨hkey, hkeys⟩ := List.nodup_cons.1 hkeys
    -- what is left for the other keys has the same groups
    have hrest : ∀ other ∈ keys, xs.filter (f · = other) =
        (xs.filter fun x => !decide (f x = key)).filter (f · = other) := by
      intro other hother
      rw [List.filter_filter]
      refine List.filter_congr fun x _ => ?_
      by_cases hx : f x = other
      · have hne : other ≠ key := fun heq => hkey (heq ▸ hother)
        simp [hx, hne]
      · simp [hx]
    have hothers : ∀ x ∈ xs.filter fun x => !decide (f x = key), f x ∈ keys := by
      intro x hx
      obtain ⟨hmem, hne⟩ := List.mem_filter.1 hx
      exact (List.mem_cons.1 (h x hmem)).resolve_left (by simpa using hne)
    rw [List.flatMap_cons, List.flatMap_congr hrest]
    exact ((ih hkeys hothers).append_left _).trans (List.filter_append_perm (f · = key) xs)

/-- The methods stand where the operations do. They are in the order of their services, so this
holds up to the order. -/
theorem exists_endpoints {o : Options} {ops : List Operation} {s : Summary}
    (h : EachMethod o ops s fun op m => op.StandsAt (m.path, m.verb)) :
    ∃ endpoints, List.Forall₂ Operation.StandsAt ops endpoints ∧ s.endpoints.Perm endpoints := by
  have hgrouped : List.Forall₂ Operation.StandsAt
      ((ops.map (·.key o)).eraseDups.flatMap fun key => ops.filter (·.key o = key)) s.endpoints :=
    List.rel_flatMap h fun key service hservice => List.forall₂_map_right_iff.2 hservice
  have hperm : ((ops.map (·.key o)).eraseDups.flatMap fun key =>
      ops.filter (·.key o = key)).Perm ops :=
    flatMap_filter_perm (nodup_eraseDups _)
      fun op hop => List.mem_eraseDups.2 (List.mem_map_of_mem hop)
  obtain ⟨endpoints, hops, hs⟩ := List.perm_comp_forall₂ hperm.symm hgrouped
  exact ⟨endpoints, hops, hs.symm⟩

/-! ## Descriptions by paths -/

/-- The verb that a key of a path is, in capitals, if it is one. -/
def verbAt : Scalar → List String
  | .str key => if Text.upper key ∈ httpVerbs then [Text.upper key] else []
  | _ => []

/-- The verbs of a path, in capitals, as often as they are there in some case. -/
def verbsOf (item : Value.Entries) : List String :=
  item.flatMap fun e => verbAt e.1

/-- Where the operations of a path stand. -/
def endpointsAt (e : Scalar × Value) : List (String × String) :=
  match e.1, e.2.entries with
  | .str path, .ok item => (verbsOf item).map fun verb => (path, verb)
  | _, _ => []

section Paths

variable {path : Scalar} {shared : Value} {e : Scalar × Value} {ops : List Operation}

/-- An operation of a path stands at its path and has its verb. -/
theorem standsAt_of_operationAt {name : String} (h : operationAt (.str name) shared e = .ok ops) :
    List.Forall₂ Operation.StandsAt ops ((verbAt e.1).map fun verb => (name, verb)) := by
  unfold operationAt at h
  -- at a verb, and at any other text
  split at h
  · next key node =>
    rw [← Except.ok.inj h, verbAt]
    split
    · exact .cons ⟨rfl, rfl⟩ .nil
    · exact .nil
  · rw [← Except.ok.inj h]
    exact .nil
  · exact nomatch h

/-- At a path that is a text there is one place for each verb among its keys. -/
theorem endpointsAt_eq {name : String} {item : Value.Entries} (hpath : e.1 = .str name)
    (hitem : e.2.entries = .ok item) :
    endpointsAt e = (verbsOf item).map fun verb => (name, verb) := by
  rw [endpointsAt, hpath, hitem]

/-- A place knows the path that it is at, so places at different paths are different. -/
theorem path_of_mem_endpointsAt {endpoint : String × String} (h : endpoint ∈ endpointsAt e) :
    e.1 = .str endpoint.1 := by
  unfold endpointsAt at h
  split at h
  · next name item hpath _ =>
    obtain ⟨verb, _, rfl⟩ := List.mem_map.1 h
    exact hpath
  · exact absurd h List.not_mem_nil

/-- The operations of a path stand at the places that its keys make, one by one and in their
order. -/
theorem standsAt_of_itemOperations {name : String} (hpath : e.1 = .str name)
    (h : itemOperations e = .ok ops) : List.Forall₂ Operation.StandsAt ops (endpointsAt e) := by
  simp only [itemOperations, bind_eq_ok_iff] at h
  obtain ⟨item, hitem, shared, -, hops⟩ := h
  rw [hpath] at hops
  rw [endpointsAt_eq hpath hitem, verbsOf, List.map_flatMap]
  exact forall₂_of_collect hops fun e _ found => standsAt_of_operationAt

/-- No two operations stand at the same place exactly when no path has two keys that are the same
verb. Paths are different keys, so what stands at two of them cannot be the same place, and the
question is left for one path at a time. -/
theorem nodup_endpointsAt_iff {items : Value.Entries}
    (htexts : ∀ e ∈ items, ∃ name, e.1 = .str name) (hkeys : (items.map (·.1)).Nodup) :
    (items.flatMap endpointsAt).Nodup ↔
      ∀ e ∈ items, ∀ item, e.2.entries = .ok item → (verbsOf item).Nodup := by
  rw [List.nodup_flatMap]
  constructor
  · rintro ⟨hnodup, -⟩ e he item hitem
    obtain ⟨name, hpath⟩ := htexts e he
    have hends := hnodup e he
    rw [endpointsAt_eq hpath hitem] at hends
    exact hends.of_map _
  · intro hverbs
    refine ⟨fun e he => ?_, ?_⟩
    · obtain ⟨name, hpath⟩ := htexts e he
      cases hitem : e.2.entries with
      | ok item =>
        rw [endpointsAt_eq hpath hitem]
        exact (hverbs e he item hitem).map fun _ _ heq => (Prod.mk.inj heq).2
      | error e =>
        rw [endpointsAt, hpath, hitem]
        exact List.nodup_nil
    · -- what stands at different paths is different
      refine (List.pairwise_map.1 hkeys).imp fun {e f} hne => ?_
      refine List.disjoint_left.2 fun endpoint he hf => hne ?_
      rw [path_of_mem_endpointsAt he, path_of_mem_endpointsAt hf]

end Paths

/-! ## The outline -/

/-- **The methods of an outline stand where the operations of the description do.** In a description
by paths they have verbs of the list, and if its paths are different texts, no two of them stand at
the same place exactly when no path has two keys that are the same verb in different cases. -/
theorem decode_endpoints {spec : Value} {o : Options} {s : Summary}
    (h : (decode spec o).outcome = .ok s) :
    ∃ d entries ops endpoints, spec.entries = .ok entries ∧ operations spec = .ok (d, ops) ∧
      List.Forall₂ Operation.StandsAt ops endpoints ∧ s.endpoints.Perm endpoints ∧
      (d = .paths → (∀ e ∈ s.endpoints, e.2 ∈ httpVerbs) ∧
        ∀ items, ((Value.Entries.get entries "paths").orElse (.object [])).entries = .ok items →
          (∀ e ∈ items, ∃ name, e.1 = .str name) → (items.map (·.1)).Nodup →
          (s.endpoints.Nodup ↔
            ∀ e ∈ items, ∀ item, e.2.entries = .ok item → (verbsOf item).Nodup)) := by
  obtain ⟨d, entries, ops, hentries, hops, hmakes⟩ := decode_makes h
  obtain ⟨endpoints, hstand, hperm⟩ :=
    exists_endpoints (hmakes.imp fun op m hm => ⟨hm.path, hm.verb⟩)
  refine ⟨d, entries, ops, endpoints, hentries, hops, hstand, hperm, ?_⟩
  rintro rfl
  obtain ⟨_, _, hsame, hops⟩ := operations_eq_ok_iff.1 hops
  obtain rfl := Except.ok.inj (hentries.symm.trans hsame)
  constructor
  · intro endpoint hendpoint
    obtain ⟨op, hop, hread⟩ := exists_of_forall₂_right hstand (hperm.mem_iff.1 hendpoint)
    cases foundIn_of_operationsAs hops hop with
    | keyed _ _ _ _ _ hverb => exact Except.ok.inj hread.2 ▸ hverb
  · intro items hitems htexts hkeys
    simp only [operationsAs, hitems, ok_bind] at hops
    have hends : List.Forall₂ Operation.StandsAt ops (items.flatMap endpointsAt) := by
      refine forall₂_of_collect hops fun e he found hfound => ?_
      obtain ⟨name, hpath⟩ := htexts e he
      exact standsAt_of_itemOperations hpath hfound
    -- an operation stands at one place only, so both lists of places are the same
    have hunique : Relator.RightUnique Operation.StandsAt := fun _ _ _ => Operation.standsAt_unique
    have hsame : endpoints = items.flatMap endpointsAt := hunique.forall₂ hstand hends
    rw [hperm.nodup_iff, hsame]
    exact nodup_endpointsAt_iff htexts hkeys

/-- A path with these keys, each with an operation that asks for the same name. -/
def keyedPath (keys : List String) : Value.Entries :=
  [(.str "/a", .object (keys.map fun key => (.str key, .ofFields [("operationId", .str "x")])))]

/-- A description with that path. -/
def keyed (keys : List String) : Value.Entries :=
  [(.str "swagger", .str "2.0"), (.str "info", .object []),
    (.str "paths", .object (keyedPath keys))]

/-- One path with two verbs, whose operations ask for one name: each method stands at its own
place. -/
theorem decode_endpoints_keyed :
    ∃ s, (decode (.object (keyed ["get", "Put"])) {}).outcome = .ok s ∧
      (∀ e ∈ s.endpoints, e.2 ∈ httpVerbs) ∧ s.endpoints.Nodup := by
  obtain ⟨s, hs⟩ : ∃ s, (decode (.object (keyed ["get", "Put"])) {}).outcome = .ok s :=
    exists_of_isOk (by decide +kernel)
  obtain ⟨d, entries, ops, endpoints, hentries, hops, _, _, hpaths⟩ := decode_endpoints hs
  obtain rfl : keyed ["get", "Put"] = entries := Except.ok.inj hentries
  have hdialect : (operations (.object (keyed ["get", "Put"]))).toOption.map (·.1) =
      some .paths := by
    decide +kernel
  rw [hops] at hdialect
  obtain ⟨hverbs, hnodup⟩ := hpaths (Option.some.inj hdialect)
  refine ⟨s, hs, hverbs, (hnodup (keyedPath ["get", "Put"]) rfl ?_ (by decide +kernel)).2 ?_⟩
  · intro e he
    rw [List.mem_singleton.1 he]
    exact ⟨"/a", rfl⟩
  · intro e he item hitem
    rw [List.mem_singleton.1 he] at hitem
    rw [← Except.ok.inj hitem]
    decide +kernel

/-! ## Other verbs, and the same one twice -/

/-- A listing with operations of these verbs at one path. -/
def verbListing (verbs : List String) : Value :=
  .ofFields [("swaggerVersion", .str "1.2"), ("apis", .list [
    .ofFields [("path", .str "/a"), ("operations", .list (verbs.map fun verb =>
      .ofFields [("method", .str verb), ("nickname", .str "x")]))]])]

/-- A verb of a listing need not be one of the list, an operation can be listed twice, and a path
can have a verb in two cases. -/
theorem not_oneEach :
    (∃ s, (decode (verbListing ["trace"]) {}).outcome = .ok s ∧
        ¬ ∀ e ∈ s.endpoints, e.2 ∈ httpVerbs) ∧
      (∃ s, (decode (verbListing ["get", "get"]) {}).outcome = .ok s ∧ ¬ s.endpoints.Nodup) ∧
      ∃ s, (decode (.object (keyed ["get", "GET"])) {}).outcome = .ok s ∧ ¬ s.endpoints.Nodup := by
  have htrace : (decode (verbListing ["trace"]) {}).outcome.toOption.map Summary.endpoints =
      some [("/a", "TRACE")] := by
    decide +kernel
  have hlisted : (decode (verbListing ["get", "get"]) {}).outcome.toOption.map Summary.endpoints =
      some [("/a", "GET"), ("/a", "GET")] := by
    decide +kernel
  have hkeyed : (decode (.object (keyed ["get", "GET"])) {}).outcome.toOption.map
      Summary.endpoints = some [("/a", "GET"), ("/a", "GET")] := by
    decide +kernel
  -- the first for the verbs of the list, the others for places that come twice
  refine ⟨?_, ?_, ?_⟩
  · obtain ⟨s, hs, hends⟩ := exists_of_toOption_map htrace
    exact ⟨s, hs, by rw [hends]; decide⟩
  · obtain ⟨s, hs, hends⟩ := exists_of_toOption_map hlisted
    exact ⟨s, hs, by rw [hends]; decide⟩
  · obtain ⟨s, hs, hends⟩ := exists_of_toOption_map hkeyed
    exact ⟨s, hs, by rw [hends]; decide⟩

end Decoding

end ApiOutline
