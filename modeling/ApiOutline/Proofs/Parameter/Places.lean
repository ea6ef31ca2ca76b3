/-
Where parameters travel.

A parameter has five switches, one for each place, and a description says with one word in which
place the parameter travels. The switch of that place is set. The others are not reset: they are
read from the node as it stands, and a node may well turn one on itself (`claimsPlace`). So the
switches that are on are that of the place of the node and those that it claims, and the
classification is exclusive for the nodes that claim no place but their own, and for no others
(`Classified`).

Where it is exclusive a parameter is in one group of its method at most, for the groups by place are
told by the switches alone.
-/
import ApiOutline.Proofs.Methods

set_option autoImplicit false

namespace ApiOutline

/-- The parameters of a method that travel in a place. -/
def Method.group (m : Method) : Place → List Parameter
  | .path => m.pathParams
  | .query => m.queryParams
  | .header => m.headerParams
  | .form => m.formParams
  | .body => m.bodyParam.toList

/-- What is in the group of a place has the switch of the place on. -/
theorem Method.mem_group {m : Method} (h : m.grouped = m) {place : Place} {p : Parameter}
    (hp : p ∈ m.group place) : p ∈ m.parameters ∧ p.isIn place = true := by
  rw [← h] at hp
  cases place with
  | path => exact List.mem_filter.1 hp
  | query => exact List.mem_filter.1 hp
  | header => exact List.mem_filter.1 hp
  | form => exact List.mem_filter.1 hp
  | body =>
    -- only the first parameter of the body is kept
    have hfound : m.parameters.find? (·.isBody) = some p := Option.mem_toList.1 hp
    have hbody := List.find?_some hfound
    exact ⟨List.mem_of_find?_eq_some hfound, hbody⟩

namespace Decoding

open Outcome

/-- A node that turns the switch of a place on itself. -/
def claimsPlace (es : Value.Entries) (place : Place) : Bool :=
  (place.switch.flag es).value

/-- What the classification of a parameter promises: of its switches that of its place is on and no
other, and none at all if it has no place. -/
def Exclusive (d : Dialect) (es : Value.Entries) (p : Parameter) : Prop :=
  ∀ place, p.isIn place = true ↔ placeOf? d es = some place

/-- What becomes of the switches of a parameter, and of the groups that it is in. -/
structure Classified (d : Dialect) (m : Method) (es : Value.Entries) (p : Parameter) : Prop where
  isIn : ∀ place, p.isIn place = true ↔ placeOf? d es = some place ∨ claimsPlace es place = true
  exclusive : Exclusive d es p ↔ ∀ place, claimsPlace es place = true → placeOf? d es = some place
  groups : Exclusive d es p → ∀ place other, p ∈ m.group place → p ∈ m.group other → place = other

/-- **The switches that are on are that of the place of a node and those that the node claims.** -/
theorem classified_of_derives {d : Dialect} {m : Method} {es : Value.Entries} {p : Parameter}
    (hm : m.grouped = m) (h : Derives d es p) : Classified d m es p := by
  have hisIn : ∀ place,
      p.isIn place = true ↔ placeOf? d es = some place ∨ claimsPlace es place = true := by
    intro place
    rw [h.isIn, Bool.or_eq_true, decide_eq_true_iff]
    rfl
  constructor
  case isIn => exact hisIn
  case exclusive =>
    -- the switch of the place is on in any case, so only the claims of the node can break the rule
    constructor
    · intro hexclusive place hclaims
      exact (hexclusive place).1 ((hisIn place).2 (.inr hclaims))
    · intro hclaims place
      rw [hisIn]
      exact ⟨fun hon => hon.elim id (hclaims place), .inl⟩
  case groups =>
    intro hexclusive place other hplace hother
    have hhere := (hexclusive place).1 (Method.mem_group hm hplace).2
    have hthere := (hexclusive other).1 (Method.mem_group hm hother).2
    exact Option.some.inj (hhere.symm.trans hthere)

/-- **Where the parameters of an outline travel**, method by method and node by node. A switch is
on for the place of the node and for every place that the node claims itself, so only one is on
just where it claims no other; and then the parameter is in one group at most. -/
theorem decode_classified {spec : Value} {o : Options} {s : Summary}
    (h : (decode spec o).outcome = .ok s) :
    ∃ d entries ops, spec.entries = .ok entries ∧ operations spec = .ok (d, ops) ∧
      EachMethod o ops s fun op m => op.EachParameter d entries o m (Classified d m) := by
  obtain ⟨d, entries, ops, hentries, hops, hmakes⟩ := decode_makes h
  refine ⟨d, entries, ops, hentries, hops, hmakes.imp fun op m hm => ?_⟩
  exact hm.derives.imp fun es p hp => classified_of_derives hm.groups hp

/-- Parameters of the path, of the query, of the header, of a form and of the body, one of them
behind a reference. -/
theorem decode_classified_readingRoom :
    ∃ s, (decode readingRoom {}).outcome = .ok s ∧
      ∃ d entries ops, readingRoom.entries = .ok entries ∧
        operations readingRoom = .ok (d, ops) ∧
        EachMethod {} ops s fun op m => op.EachParameter d entries {} m (Classified d m) := by
  obtain ⟨s, hs⟩ := readingRoom_decodes
  exact ⟨s, hs, decode_classified hs⟩

/-- A parameter of the query that turns the switch of the path on. -/
def claimedPath : Value :=
  .ofFields [("swagger", .str "2.0"), ("info", .object []), ("paths", .ofFields [
    ("/a", .ofFields [("get", .ofFields [("operationId", .str "x"), ("parameters", .list [
      .ofFields [("name", .str "p"), ("in", .str "query"),
        ("isPathParameter", .bool true)]])])])])]

/-- A parameter can have two switches on: the classification is not exclusive for every node. -/
theorem not_exclusive :
    ¬ ∀ (spec : Value) (o : Options) (s : Summary), (decode spec o).outcome = .ok s →
      ∃ d entries ops, spec.entries = .ok entries ∧ operations spec = .ok (d, ops) ∧
        EachMethod o ops s fun op m => op.EachParameter d entries o m (Exclusive d) := by
  intro hall
  have hread : ((decode claimedPath {}).outcome.toOption.map fun s =>
      s.parameters.map fun p => (p.isIn .query, p.isIn .path)) = some [(true, true)] := by
    decide +kernel
  obtain ⟨s, hs, hswitches⟩ := exists_of_toOption_map hread
  obtain ⟨p, hp, hon⟩ := List.mem_map.1 (hswitches ▸ List.mem_cons_self)
  obtain ⟨hquery, hpath⟩ := Prod.mk.inj hon
  obtain ⟨d, entries, ops, _, _, hmethods⟩ := hall claimedPath {} s hs
  obtain ⟨es, hexclusive⟩ := hmethods.exists_node hp
  exact nomatch ((hexclusive .query).1 hquery).symm.trans ((hexclusive .path).1 hpath)

end Decoding

end ApiOutline
