/-
What an outline keeps of its description.

Decoding loses nothing that it does not use. A model stands for each definition and a property for
each schema, in their order, and what these have besides the fields of the record is kept as it
stands. The same holds of the node of a parameter, up to the names of its fields. When the outline
is handed out all of this is handed out with it: behind the fields of every model, property and
parameter come the entries that were kept, under the same keys, in the same order, and with the same
values if JSON knows them (`decode_preserves`).

There is nothing to be said here that is not said before. What a record keeps is told by its node,
how it is handed out is told by the record, and the lists go along with each other. So the relations
below put one after the other what was shown for nodes and records and for records and values.
-/
import ApiOutline.Proofs.HandedOut
import ApiOutline.Proofs.Shown

set_option autoImplicit false

namespace ApiOutline.Decoding

open Outcome Value

/-! ## Nodes and what is handed out for them -/

/-- A property that is handed out for a schema: its fields, and behind them the schema without
the names of these. -/
def PropertyKeeps (e : Scalar × Value) (v : Value) : Prop :=
  ∃ es : Entries, e.2.entries = .ok es ∧
    Shows Property.fieldNames (es.beyond ["name", "camelCaseName", "type"]) v

/-- A model that is handed out for a definition: its fields, and behind them the definition without
the names of these. Its properties are handed out for the schemas of the definition. -/
def ModelKeeps (e : Scalar × Value) (v : Value) : Prop :=
  ∃ (es schemas : Entries) (properties : List Value), e.2.entries = .ok es ∧
    Shows Model.fieldNames (es.beyond ["name", "modelName", "version", "properties"]) v ∧
    ((es.get "properties").orElse (.object [])).entries = .ok schemas ∧
    v.entry "properties" = .ok (.list properties) ∧
    List.Forall₂ PropertyKeeps schemas properties

/-- A parameter that is handed out for a node: its fields, and behind them entries of the node, with
all that are under no name of a field. -/
def ParameterKeeps (node v : Value) : Prop :=
  ∃ es kept, node.entries = .ok es ∧ KeptBeyond Parameter.names es kept ∧
    Shows Parameter.fieldNames kept v

/-- A method that is handed out for an operation: all of its parameters are handed out for the nodes
that the operation leaves. -/
def MethodKeeps (d : Dialect) (spec : Entries) (o : Options) (op : Operation) (v : Value) : Prop :=
  ∃ nodes ps, op.sources d spec o = .ok nodes ∧ Method.ShowsParameters ps v ∧
    List.Forall₂ ParameterKeeps nodes ps

/-- An outline that is handed out: a model for each definition, and a method for each operation,
service by service. -/
structure Keeps (d : Dialect) (spec : Entries) (o : Options) (ops : List Operation)
    (stated : Entries) (v : Value) : Prop where
  models : ∃ models, v.entry "models" = .ok (.list models) ∧
    List.Forall₂ ModelKeeps (stated.filter (d.defines ·.1)) models
  services : ∃ services, v.entry "services" = .ok (.list services) ∧
    List.Forall₂ (fun key service => ∃ methods, service.entry "methods" = .ok (.list methods) ∧
      List.Forall₂ (MethodKeeps d spec o) (ops.filter (·.key o = key)) methods)
      (ops.map (·.key o)).eraseDups services

section Keeps

variable {d : Dialect} {spec : Entries} {o : Options}

/-- **A property is handed out with all that its schema says besides its fields.** -/
theorem propertyKeeps_of_form {e : Scalar × Value} {p : Property} {v : Value}
    (hp : FromEntry PropertyOf e p) (hv : p.form = .ok v) : PropertyKeeps e v := by
  obtain ⟨es, hes, hproperty⟩ := hp
  refine ⟨es, hes, ?_⟩
  rw [← hproperty.extras]
  exact Property.shows_of_form hv

/-- **So is a model**, and behind its fields each of its properties is handed out for its schema.
-/
theorem modelKeeps_of_form {version : Option String} {e : Scalar × Value} {m : Model} {v : Value}
    (hm : FromEntry (ModelOf version) e m) (hv : m.form = .ok v) : ModelKeeps e v := by
  obtain ⟨es, hes, hmodel⟩ := hm
  obtain ⟨schemas, hschemas, hproperties⟩ := hmodel.properties
  obtain ⟨hshows, properties, hlisted, hforms⟩ := Model.shows_of_form hv
  rw [hmodel.extras] at hshows
  refine ⟨es, schemas, properties, hes, hshows, hschemas, hlisted, ?_⟩
  refine (forall₂_trans hproperties hforms).imp ?_
  rintro f w ⟨p, hp, hw⟩
  exact propertyKeeps_of_form hp hw

/-- **So is a parameter**, for the node that it was made of, in which names of fields may have two
spellings. -/
theorem parameterKeeps_of_form {node : Value} {p : Parameter} {v : Value}
    (hp : parameterOf d node = .ok p) (hv : p.form = .ok v) : ParameterKeeps node v := by
  obtain ⟨es, hes, hkept⟩ := parameterOf_keeps hp
  exact ⟨es, Entries.ofTexts p.extras, hes, hkept, Parameter.shows_of_form hv⟩

/-- The parameters of a method are handed out one by one, for the nodes that its operation leaves.
-/
theorem methodKeeps_of_form {op : Operation} {m : Method} {v : Value} (hm : op.Makes d spec o m)
    (hv : m.form = .ok v) : MethodKeeps d spec o op v := by
  obtain ⟨nodes, hnodes, hps⟩ := hm.parameters
  obtain ⟨ps, hforms, hshows⟩ := Method.shows_of_form hm.groups hv
  refine ⟨nodes, ps, hnodes, hshows, (forall₂_trans hps hforms).imp ?_⟩
  rintro node w ⟨p, hp, hw⟩
  exact parameterKeeps_of_form hp hw

end Keeps

/-! ## Outlines -/

/-- **Nothing that is not used is lost.** There is a model for each definition, and if the outline
is handed out, everything that its models, properties and parameters do not use is handed out with
them, under the same keys and in the same order. It can be handed out if the description fits,
that is, if JSON has a form for all of its values and their levels are not too many. -/
theorem decode_preserves {spec : Value} {o : Options} {s : Summary}
    (h : (decode spec o).outcome = .ok s) :
    ∃ (d : Dialect) (entries : Entries) (ops : List Operation) (version : Option String)
      (stated : Entries),
      spec.entries = .ok entries ∧ operations spec = .ok (d, ops) ∧
      ((entries.get d.modelsField).orElse (.object [])).entries = .ok stated ∧
      List.Forall₂ (FromEntry (ModelOf version)) (stated.filter (d.defines ·.1)) s.models ∧
      (∀ v, s.form = .ok v → Keeps d entries o ops stated v) ∧
      (spec.Fits → ∃ v, s.form = .ok v) := by
  obtain ⟨d, entries, ops, hentries, hops, hmakes⟩ := decode_makes h
  obtain ⟨d', entries', version, stated, hd, hentries', _, hstated, hmodels⟩ := decode_models h
  obtain rfl : entries = entries' := Except.ok.inj (hentries.symm.trans hentries')
  obtain ⟨_, hselected, _, _⟩ := operations_eq_ok_iff.1 hops
  obtain rfl : d = d' := Except.ok.inj (hselected.symm.trans hd)
  refine ⟨d, entries, ops, version, stated, hentries, hops, hstated, hmodels, fun v hv => ?_,
    fun hspec => (decode_fits hspec h).exists_form⟩
  obtain ⟨services, models, hservicesEntry, hmodelsEntry, hservices, hmodelForms⟩ :=
    Summary.shows_of_form hv
  -- definitions go with models and models with what is handed out for them; the same for methods
  constructor
  case models =>
    refine ⟨models, hmodelsEntry, (forall₂_trans hmodels hmodelForms).imp ?_⟩
    rintro e w ⟨m, hm, hw⟩
    exact modelKeeps_of_form hm hw
  case services =>
    refine ⟨services, hservicesEntry, (forall₂_trans hmakes hservices).imp ?_⟩
    rintro key w ⟨service, hservice, hw⟩
    obtain ⟨methods, hmethodsEntry, hmethods⟩ := Service.shows_of_form hw
    refine ⟨methods, hmethodsEntry, (forall₂_trans hservice hmethods).imp ?_⟩
    rintro op w ⟨m, hm, hw⟩
    exact methodKeeps_of_form hm hw

/-- A description that says more than an outline has fields for: about a model, about its property,
and about a parameter that is referred to. -/
def cardCatalogue : Value :=
  .ofFields [("swagger", .str "2.0"), ("info", .object []),
    ("definitions", .ofFields [
      ("x-revision", .ofFields [("since", .int 3)]),
      ("Card", .ofFields [("type", .str "object"), ("name", .str "card"),
        ("required", .list [.str "shelf"]),
        ("properties", .ofFields [("shelf", .ofFields [("type", .str "string"),
          ("x-range", .ofFields [("from", .int 1), ("to", .null)])])])])]),
    ("parameters", .ofFields [("shelf", .ofFields [("name", .str "shelf"), ("in", .str "query"),
      ("schema", .ofFields [("minLength", .int 2)])])]),
    ("paths", .ofFields [("/cards", .ofFields [("get", .ofFields [("operationId", .str "list"),
      ("parameters", .list [.ofFields [("$ref", .str "#/parameters/shelf")]])])])])]

/-- A catalogue whose model, property and shared parameter say more than there are fields for: all
of it is handed out. -/
theorem decode_preserves_cardCatalogue :
    ∃ s, (decode cardCatalogue {}).outcome = .ok s ∧ cardCatalogue.Fits ∧
      ∃ (d : Dialect) (entries : Entries) (ops : List Operation) (version : Option String)
        (stated : Entries),
        cardCatalogue.entries = .ok entries ∧ operations cardCatalogue = .ok (d, ops) ∧
        ((entries.get d.modelsField).orElse (.object [])).entries = .ok stated ∧
        List.Forall₂ (FromEntry (ModelOf version)) (stated.filter (d.defines ·.1)) s.models ∧
        (∀ v, s.form = .ok v → Keeps d entries {} ops stated v) ∧
        (cardCatalogue.Fits → ∃ v, s.form = .ok v) := by
  obtain ⟨s, hs⟩ : ∃ s, (decode cardCatalogue {}).outcome = .ok s :=
    exists_of_isOk (by decide +kernel)
  have hfits : cardCatalogue.Fits := ⟨by decide +kernel, by decide +kernel⟩
  exact ⟨s, hs, hfits, decode_preserves hs⟩

end ApiOutline.Decoding
