/-
Patterns and single values.

A parameter of the query can stand for all parameters whose names match a pattern, and a parameter
can have one value only. The node says so in fields of its own, `x-name-pattern` and `enum`, and two
fields of the record tell of each: a switch and what goes with it.

Where the node says so both are set. Where it does not, neither is reset, and what the node has
under their names is taken for what was derived (`Constrained`). One of the names is `pattern`,
which in the description means something else, a constraint on values, so a plain parameter with
such a constraint has a pattern in the outline and no switch for it. The fields mean what they say
for the nodes that have nothing of their own there, and for no others (`Constrained.faithful_iff`).
-/
import ApiOutline.Proofs.Methods

set_option autoImplicit false

namespace ApiOutline.Decoding

open Outcome Value

section Fields

variable (d : Dialect) (es : Value.Entries) (p : Parameter)

/-- A node with a pattern for names: its parameter travels in the query. -/
def HasNamePattern : Prop :=
  placeOf? d es = some .query ∧ (es.get "x-name-pattern").truthy = true

/-- A node that enumerates just one value. -/
def HasSoleValue : Prop :=
  (es.get "enum").size = .ok 1

/-- The switch for a pattern, as a node has it. -/
def statedPatternSwitch : Bool :=
  (FieldName.flag ⟨"isPatternType", "is_pattern_type"⟩ es).value

/-- The switch for a single value, as a node has it. -/
def statedSingletonSwitch : Bool :=
  (FieldName.flag ⟨"isSingleton", "is_singleton"⟩ es).value

/-- What the fields of a parameter promise. -/
structure Faithful : Prop where
  isPattern : p.isPattern = true ↔ HasNamePattern d es
  pattern : HasNamePattern d es →
    ∃ pattern, Mismatch.text (es.get "x-name-pattern") = .ok pattern ∧ p.pattern = some pattern
  noPattern : ¬ HasNamePattern d es → p.pattern = none
  isSingleton : p.isSingleton = true ↔ HasSoleValue es
  singleton : HasSoleValue es → (es.get "enum").first = .ok p.singleton
  noSingleton : ¬ HasSoleValue es → p.singleton = .null

/-- A node with nothing of its own in the fields that are not set for it. -/
structure Unburdened : Prop where
  pattern : ¬ HasNamePattern d es → statedPatternSwitch es = false ∧ es.get "pattern" = .null
  singleton : ¬ HasSoleValue es → statedSingletonSwitch es = false ∧ es.get "singleton" = .null

/-- What is in the fields of a parameter: what was set for its node, or else what the node has
there. -/
structure Constrained : Prop where
  pattern : HasNamePattern d es → p.isPattern = true ∧
    ∃ pattern, Mismatch.text (es.get "x-name-pattern") = .ok pattern ∧ p.pattern = some pattern
  ownPattern : ¬ HasNamePattern d es →
    p.isPattern = statedPatternSwitch es ∧ Mismatch.text? (es.get "pattern") = .ok p.pattern
  singleton : HasSoleValue es → p.isSingleton = true ∧ (es.get "enum").first = .ok p.singleton
  ownSingleton : ¬ HasSoleValue es →
    p.isSingleton = statedSingletonSwitch es ∧ p.singleton = es.get "singleton"

end Fields

/-! ## Texts and null -/

/-- What counts as present is read as a text. -/
theorem text_of_text? {v : Value} {read : Option String} (hv : v.truthy = true)
    (h : Mismatch.text? v = .ok read) :
    ∃ text, Mismatch.text v = .ok text ∧ read = some text := by
  have hne : ¬ v.isNull = true := by
    intro hnull
    rw [isNull_iff.1 hnull] at hv
    exact nomatch hv
  rw [Mismatch.text?, if_neg hne] at h
  obtain ⟨text, htext, hread⟩ := map_eq_ok_iff.1 h
  exact ⟨text, htext, hread.symm⟩

/-- Null is read as nothing, and nothing else is. -/
theorem text?_eq_none_iff {v : Value} {read : Option String} (h : Mismatch.text? v = .ok read) :
    read = none ↔ v = .null := by
  rw [Mismatch.text?] at h
  by_cases hnull : v.isNull = true
  · rw [if_pos hnull] at h
    exact ⟨fun _ => isNull_iff.1 hnull, fun _ => (Except.ok.inj h).symm⟩
  · rw [if_neg hnull] at h
    obtain ⟨text, _, rfl⟩ := map_eq_ok_iff.1 h
    exact ⟨fun hread => (nomatch hread), fun hv => (hnull (isNull_iff.2 hv)).elim⟩

/-! ## What the fields have -/

section Node

variable {d : Dialect} {es : Value.Entries} {p : Parameter}

theorem namePattern?_of_has (h : HasNamePattern d es) :
    namePattern? d es = some (es.get "x-name-pattern") :=
  if_pos h

theorem namePattern?_of_not_has (h : ¬ HasNamePattern d es) : namePattern? d es = none :=
  if_neg h

/-- **The fields for patterns and single values have what was set for a node, or else what the node
has there itself.** -/
theorem constrained_of_derives (h : Derives d es p) : Constrained d es p := by
  constructor
  case pattern =>
    intro hhas
    have hstated := namePattern?_of_has hhas
    rw [h.isPattern, hstated, Option.isSome_some, Bool.true_or]
    exact ⟨rfl, text_of_text? hhas.2 (h.statedPattern _ hstated)⟩
  case ownPattern =>
    intro hnone
    have hstated := namePattern?_of_not_has hnone
    rw [h.isPattern, hstated, Option.isSome_none, Bool.false_or]
    exact ⟨rfl, FieldName.text?_of_one_name (h.ownPattern hstated)⟩
  case singleton =>
    intro hhas
    -- the enumeration was asked for its first value, or there would be no parameter
    obtain ⟨only, honly⟩ := h.enumeration hhas
    have hsole : soleValue? es = some only := soleValue?_eq_some_iff.2 ⟨hhas, honly⟩
    rw [h.isSingleton, h.singleton, hsole, honly]
    exact ⟨rfl, rfl⟩
  case ownSingleton =>
    intro hnone
    have hsole : soleValue? es = none := soleValue?_of_size hnone
    rw [h.isSingleton, h.singleton, hsole, Option.getD_none, FieldName.any_of_one_name]
    exact ⟨rfl, rfl⟩

/-- **The fields mean what they say just for the nodes that have nothing of their own there.**
With a pattern for names, or a sole value, the fields are right in any case. Without, they show
what the node has there, and so it must have nothing. -/
theorem Constrained.faithful_iff (h : Constrained d es p) :
    Faithful d es p ↔ Unburdened d es := by
  constructor
  · intro hfaithful
    constructor
    -- the switch that is on without a pattern for names must be the node's own
    case pattern =>
      intro hnone
      obtain ⟨hswitch, hread⟩ := h.ownPattern hnone
      have hoff : ¬ p.isPattern = true := fun hon => hnone (hfaithful.isPattern.1 hon)
      rw [← hswitch]
      exact ⟨Bool.not_eq_true _ ▸ hoff, (text?_eq_none_iff hread).1 (hfaithful.noPattern hnone)⟩
    case singleton =>
      intro hnone
      obtain ⟨hswitch, hvalue⟩ := h.ownSingleton hnone
      have hoff : ¬ p.isSingleton = true := fun hon => hnone (hfaithful.isSingleton.1 hon)
      rw [← hswitch, ← hvalue]
      exact ⟨Bool.not_eq_true _ ▸ hoff, hfaithful.noSingleton hnone⟩
  · intro hclear
    constructor
    case isPattern =>
      refine ⟨fun hon => ?_, fun hhas => (h.pattern hhas).1⟩
      by_contra hnone
      rw [(h.ownPattern hnone).1, (hclear.pattern hnone).1] at hon
      exact nomatch hon
    case pattern => exact fun hhas => (h.pattern hhas).2
    case noPattern =>
      intro hnone
      exact (text?_eq_none_iff (h.ownPattern hnone).2).2 (hclear.pattern hnone).2
    case isSingleton =>
      refine ⟨fun hon => ?_, fun hhas => (h.singleton hhas).1⟩
      by_contra hnone
      rw [(h.ownSingleton hnone).1, (hclear.singleton hnone).1] at hon
      exact nomatch hon
    case singleton => exact fun hhas => (h.singleton hhas).2
    case noSingleton =>
      intro hnone
      exact (h.ownSingleton hnone).2.trans (hclear.singleton hnone).2

end Node

/-! ## In an outline -/

/-- **What the fields for patterns and single values have in an outline**, method by method and
node by node: what was set for the node, or else what the node has there itself. They mean what
they say just for the nodes that have nothing of their own there. -/
theorem decode_constrained {spec : Value} {o : Options} {s : Summary}
    (h : (decode spec o).outcome = .ok s) :
    ∃ d entries ops, spec.entries = .ok entries ∧ operations spec = .ok (d, ops) ∧
      EachMethod o ops s fun op m => op.EachParameter d entries o m fun es p =>
        Constrained d es p ∧ (Faithful d es p ↔ Unburdened d es) := by
  obtain ⟨d, entries, ops, hentries, hops, hmakes⟩ := decode_makes h
  refine ⟨d, entries, ops, hentries, hops, hmakes.imp fun op m hm => ?_⟩
  refine hm.derives.imp fun es p hp => ?_
  have hconstrained : Constrained d es p := constrained_of_derives hp
  exact ⟨hconstrained, hconstrained.faithful_iff⟩

/-- One parameter has a pattern for its name, and one a single value that it may have. -/
theorem decode_constrained_readingRoom :
    ∃ s, (decode readingRoom {}).outcome = .ok s ∧
      ∃ d entries ops, readingRoom.entries = .ok entries ∧
        operations readingRoom = .ok (d, ops) ∧
        EachMethod {} ops s fun op m => op.EachParameter d entries {} m fun es p =>
          Constrained d es p ∧ (Faithful d es p ↔ Unburdened d es) := by
  obtain ⟨s, hs⟩ := readingRoom_decodes
  exact ⟨s, hs, decode_constrained hs⟩

/-- A parameter with a constraint on its values, and one that says it has a single value without
saying which. -/
def ownConstraints : Value :=
  .ofFields [("swagger", .str "2.0"), ("info", .object []), ("paths", .ofFields [
    ("/a", .ofFields [("get", .ofFields [("operationId", .str "x"), ("parameters", .list [
      .ofFields [("name", .str "code"), ("in", .str "query"), ("pattern", .str "^[a-z]+$")],
      .ofFields [("name", .str "kind"), ("in", .str "query"),
        ("isSingleton", .bool true)]])])])])]

/-- A parameter can have a pattern and not stand for one: the fields do not mean what they say for
every node. -/
theorem not_faithful :
    ¬ ∀ (spec : Value) (o : Options) (s : Summary), (decode spec o).outcome = .ok s →
      ∃ d entries ops, spec.entries = .ok entries ∧ operations spec = .ok (d, ops) ∧
        EachMethod o ops s fun op m => op.EachParameter d entries o m (Faithful d) := by
  intro hall
  have hread : ((decode ownConstraints {}).outcome.toOption.map fun s =>
      s.parameters.map fun p => (p.isPattern, p.pattern)) =
      some [(false, some "^[a-z]+$"), (false, none)] := by
    decide +kernel
  obtain ⟨s, hs, hfields⟩ := exists_of_toOption_map hread
  obtain ⟨p, hp, hcode⟩ := List.mem_map.1 (hfields ▸ List.mem_cons_self)
  obtain ⟨hoff, hpattern⟩ := Prod.mk.inj hcode
  obtain ⟨d, entries, ops, _, _, hmethods⟩ := hall ownConstraints {} s hs
  obtain ⟨es, hfaithful⟩ := hmethods.exists_node hp
  have hnone : ¬ HasNamePattern d es := by
    intro hhas
    rw [hfaithful.isPattern.2 hhas] at hoff
    exact nomatch hoff
  rw [hfaithful.noPattern hnone] at hpattern
  exact nomatch hpattern

end ApiOutline.Decoding
