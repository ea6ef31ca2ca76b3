/-
Fields of an outline that say the same.

Much in an outline is said twice: a name stands next to its form in camel case, whether a parameter
is required next to its mark, the verb of a method next to two switches, and the parameters of a
method next to what follows from them as a whole. These fields come from different passes, and the
nodes that they are read from may have anything under the same names. They agree all the same, for
each of them is written over whatever the node has (`decode_consistent`).

With the switches for the verb there is one reservation. A verb may be written in octets, where the
document language knows them. It then reads as the text that the octets write, but no switch is set
for it, because octets are no text yet when it is compared (`not_isGet_iff`). This is so in listings
only, where the verb is the value of a field; in a description by paths it is a key, and a key in
octets is no verb.
-/
import ApiOutline.Proofs.Models
import ApiOutline.Proofs.Parameter.Places

set_option autoImplicit false

namespace ApiOutline

/-! ## What agrees -/

/-- A parameter whose fields agree. -/
structure Parameter.Consistent (p : Parameter) : Prop where
  camelCaseName : p.camelCaseName = Name.camelCase p.name
  cardinality : p.cardinality = if p.required then "" else "?"

/-- A method whose fields agree. The parameters are those of all groups. -/
structure Method.Consistent (m : Method) : Prop where
  parameters : ∀ p ∈ m.parameters, p.Consistent
  places : ∀ place, ∀ p ∈ m.group place, p.Consistent
  required : ∀ p ∈ m.requiredParams, p.Consistent
  optional : ∀ p ∈ m.optionalParams, p.Consistent
  hasOptional : m.hasOptionalParameter = true ↔ ∃ p ∈ m.parameters, p.required = false
  hasOptionalParams : m.hasOptionalParameter = true ↔ m.optionalParams ≠ []
  bodyParam : m.bodyParam.isSome = true ↔ ∃ p ∈ m.parameters, p.isBody = true

/-- An outline whose fields agree. -/
structure Summary.Consistent (s : Summary) : Prop where
  services : ∀ service ∈ s.services, service.camelCaseName = Name.camelCase service.name
  methods : ∀ service ∈ s.services, ∀ m ∈ service.methods, m.Consistent
  properties : ∀ model ∈ s.models, ∀ p ∈ model.properties,
    p.camelCaseName = Name.camelCase p.name

namespace Decoding

open Outcome Value

/-! ## Names in camel case -/

/-- No octets write the empty text. -/
theorem decodeUtf8?_nil : Text.decodeUtf8? [] = some "" := by
  rw [Text.decodeUtf8?, Text.decodeGaps]
  rfl

/-- What reads as a text is put in camel case as that text. Only texts can be searched for words,
and of the octets only those that count as absent get that far, which read as the empty text. -/
theorem camelCase_of_text {v : Value} {name camelCaseName : String}
    (hname : Mismatch.text v = .ok name)
    (hcamel : Name.camelCaseOfValue v = .ok camelCaseName) :
    camelCaseName = Name.camelCase name := by
  rw [Name.camelCaseOfValue] at hcamel
  unfold Mismatch.text at hname
  split at hname
  · next s =>
    obtain rfl := Except.ok.inj hname
    split at hcamel
    · exact (Except.ok.inj hcamel).symm
    · next habsent =>
      -- the empty text counts as absent, and is its own form in camel case
      have hempty : s = "" := eq_empty_of_not_truthy (Bool.not_eq_true _ ▸ habsent)
      rw [hempty, ← Except.ok.inj hcamel]
      rfl
  · next octets =>
    -- octets cannot be searched for words, so only those that count as absent come this far
    cases octets with
    | nil =>
      rw [decodeUtf8?_nil] at hname
      rw [← Except.ok.inj hcamel, ← Except.ok.inj hname]
      rfl
    | cons b rest => exact nomatch hcamel
  · exact nomatch hname

/-- A parameter that was derived from a node has fields that agree. -/
theorem Derives.consistent {d : Dialect} {es : Value.Entries} {p : Parameter}
    (h : Derives d es p) : p.Consistent := by
  refine ⟨?_, h.cardinality⟩
  rcases FieldName.text_of_one_name h.name with ⟨habsent, hempty⟩ | hname
  · have hcamel := h.camelCaseName
    rw [Entries.get, habsent] at hcamel
    rw [hempty, ← Except.ok.inj hcamel]
    rfl
  · exact camelCase_of_text hname h.camelCaseName

/-- The name of a property stands next to its form in camel case. -/
theorem PropertyOf.consistent {key : Scalar} {schema : Value.Entries} {p : Property}
    (h : PropertyOf key schema p) : p.camelCaseName = Name.camelCase p.name :=
  camelCase_of_text h.name h.camelCaseName

/-! ## Methods -/

section Methods

variable {d : Dialect} {spec : Value.Entries} {o : Options} {op : Operation} {m : Method}

/-- **What an operation makes has fields that agree.** The groups are those of the parameters, so
whatever is said of a group comes down to the list of all parameters, and each of them is
consistent by itself. -/
theorem Operation.Makes.consistent (h : op.Makes d spec o m) : m.Consistent := by
  have hparameters : ∀ p ∈ m.parameters, p.Consistent := by
    intro p hp
    obtain ⟨es, hes⟩ := h.derives.exists_node hp
    exact hes.consistent
  have hoptionalParams : m.optionalParams = m.parameters.filter (!·.required) :=
    congrArg Method.optionalParams h.groups.symm
  have hrequiredParams : m.requiredParams = m.parameters.filter (·.required) :=
    congrArg Method.requiredParams h.groups.symm
  have hbodyParam : m.bodyParam = m.parameters.find? (·.isBody) :=
    congrArg Method.bodyParam h.groups.symm
  have hoptional : m.hasOptionalParameter = true ↔ ∃ p ∈ m.parameters, p.required = false := by
    rw [h.hasOptionalParameter, List.any_eq_true]
    simp only [Bool.not_eq_true']
  constructor
  case parameters => exact hparameters
  case places => exact fun place p hp => hparameters p (Method.mem_group h.groups hp).1
  case required =>
    rw [hrequiredParams]
    exact fun p hp => hparameters p (List.mem_filter.1 hp).1
  case optional =>
    rw [hoptionalParams]
    exact fun p hp => hparameters p (List.mem_filter.1 hp).1
  case hasOptional => exact hoptional
  case hasOptionalParams =>
    rw [hoptional, hoptionalParams, ne_eq, List.filter_eq_nil_iff]
    simp only [Bool.not_eq_true', not_forall, not_not, exists_prop]
  case bodyParam =>
    rw [hbodyParam, List.find?_isSome]

/-! ### Verbs -/

/-- The verb of an operation is written as a text. -/
def Operation.SpellsVerb (op : Operation) : Prop :=
  ∃ verb, op.verb = .str verb

/-- A switch for a verb is on for the verb, if it is written as a text. -/
theorem isText_verb_iff (h : Mismatch.text op.verb = .ok m.verb) (verb : String) :
    isText verb op.verb = true ↔ m.verb = verb ∧ op.SpellsVerb := by
  rw [isText_iff]
  constructor
  · intro hverb
    rw [hverb] at h
    exact ⟨(Except.ok.inj h).symm, verb, hverb⟩
  -- a text has the verb as it is spelled, and octets are never spelled
  · rintro ⟨hverb, spelled, hspelled⟩
    rw [hspelled] at h ⊢
    have hsame : spelled = m.verb := Except.ok.inj h
    rw [hsame, hverb]

/-- The verb of a listed operation is written as a text or in octets. -/
theorem spelled_or_octets {node verb : Value} (h : listingVerb node = .ok verb) :
    (∃ spelled, verb = .str spelled) ∨ ∃ octets, node.entry "method" = .ok (.bytes octets) := by
  rw [listingVerb] at h
  obtain ⟨stated, hstated, h⟩ := bind_eq_ok_iff.1 h
  split at h
  · next octets => exact .inr ⟨octets, hstated⟩
  · obtain ⟨spelled, _, h⟩ := bind_eq_ok_iff.1 h
    exact .inl ⟨Text.upper spelled, (Except.ok.inj h).symm⟩

/-- The verb of an operation is written as a text, but for octets in a listing. -/
theorem spellsVerb_of_operations {spec : Value} {ops : List Operation}
    (h : operations spec = .ok (d, ops)) {op : Operation} (hop : op ∈ ops) :
    op.SpellsVerb ∨ d = .listing ∧ ∃ octets, op.node.entry "method" = .ok (.bytes octets) := by
  obtain ⟨entries, _, _, hops⟩ := operations_eq_ok_iff.1 h
  cases foundIn_of_operationsAs hops hop with
  | listed _ _ _ _ _ _ _ hverb =>
    exact (spelled_or_octets hverb).imp id fun hoctets => ⟨rfl, hoctets⟩
  | keyed => exact .inl ⟨_, rfl⟩

end Methods

/-! ## Outlines -/

/-- The switches of a method say what its verb is, if the verb is written as a text. -/
structure VerbSwitched (op : Operation) (m : Method) : Prop where
  isGet : m.isGet = true ↔ m.verb = "GET" ∧ op.SpellsVerb
  isPost : m.isPost = true ↔ m.verb = "POST" ∧ op.SpellsVerb

/-- **The fields of an outline agree.** What is said twice, in a field and in one that is derived
from it, is the same: names and their camel case, parameters and their groups, the switch for
optional parameters. The switches for verbs say what the verb is where it was written as a text,
and only a listing can have written it otherwise. -/
theorem decode_consistent {spec : Value} {o : Options} {s : Summary}
    (h : (decode spec o).outcome = .ok s) :
    s.Consistent ∧ ∃ d ops, operations spec = .ok (d, ops) ∧ EachMethod o ops s VerbSwitched ∧
      ∀ op ∈ ops, op.SpellsVerb ∨
        d = .listing ∧ ∃ octets, op.node.entry "method" = .ok (.bytes octets) := by
  obtain ⟨d, entries, ops, _, hops, hmakes⟩ := decode_makes h
  refine ⟨?_, d, ops, hops, hmakes.imp fun op m hm => ?_, fun op => spellsVerb_of_operations hops⟩
  · constructor
    -- the camel case of a service is made when it is looked at, of its name
    case services =>
      obtain ⟨_, _, _, _, roster, _, _, _, _, hservices⟩ := decode_files h
      rw [hservices]
      intro service hservice
      obtain ⟨e, _, rfl⟩ := List.mem_map.1 hservice
      rfl
    case methods =>
      intro service hservice m hm
      obtain ⟨op, _, hop⟩ := hmakes.exists_operation hservice hm
      exact hop.consistent
    case properties =>
      obtain ⟨_, _, _, _, _, _, _, _, hmodels⟩ := decode_models h
      intro model hmodel p hp
      obtain ⟨_, _, _, _, hdefinition⟩ := exists_of_forall₂_right hmodels hmodel
      obtain ⟨_, _, hproperties⟩ := hdefinition.properties
      obtain ⟨_, _, _, _, hschema⟩ := exists_of_forall₂_right hproperties hp
      exact hschema.consistent
  · constructor
    case isGet =>
      rw [hm.isGet]
      exact isText_verb_iff hm.verb "GET"
    case isPost =>
      rw [hm.isPost]
      exact isText_verb_iff hm.verb "POST"

/-- The reading room has parameters in all places and a model, and its fields agree. -/
theorem decode_consistent_readingRoom :
    ∃ s, (decode readingRoom {}).outcome = .ok s ∧
      s.Consistent ∧ ∃ d ops, operations readingRoom = .ok (d, ops) ∧
        EachMethod {} ops s VerbSwitched ∧
        ∀ op ∈ ops, op.SpellsVerb ∨
          d = .listing ∧ ∃ octets, op.node.entry "method" = .ok (.bytes octets) := by
  obtain ⟨s, hs⟩ := readingRoom_decodes
  exact ⟨s, hs, decode_consistent hs⟩

/-- A listing with a verb in octets. -/
def octetVerb : Value :=
  .ofFields [("swaggerVersion", .str "1.2"), ("apis", .list [
    .ofFields [("path", .str "/a"), ("operations", .list [
      .ofFields [("method", .bytes [71, 69, 84]), ("nickname", .str "x")]])]])]

/-- The switch for a verb need not be on for the verb: octets read as the text that they write,
but are compared as octets. So the method is read as a `GET`, and its switch for that is off. -/
theorem not_isGet_iff :
    ¬ ∀ (spec : Value) (o : Options) (s : Summary), (decode spec o).outcome = .ok s →
      ∀ service ∈ s.services, ∀ m ∈ service.methods, (m.isGet = true ↔ m.verb = "GET") := by
  intro hall
  have hread : ((decode octetVerb {}).outcome.toOption.map fun s =>
      s.services.flatMap fun service => service.methods.map fun m => (m.verb, m.isGet)) =
      some [("GET", false)] := by
    decide +kernel
  obtain ⟨s, hs, hverbs⟩ := exists_of_toOption_map hread
  obtain ⟨service, hservice, hmem⟩ := List.mem_flatMap.1 (hverbs ▸ List.mem_cons_self)
  obtain ⟨m, hm, hverb⟩ := List.mem_map.1 hmem
  obtain ⟨hget, hoff⟩ := Prod.mk.inj hverb
  have hon := (hall octetVerb {} s hs service hservice m hm).2 hget
  exact nomatch hon.symm.trans hoff

end Decoding

end ApiOutline
