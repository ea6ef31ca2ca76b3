/-
What the models of an outline are made of.

A model is made of one definition, and a property of a model of one schema in it. Before they are
read, both get values under the first names of all their fields, whatever they have there. So each
field is told by the key and the definition, and what a record keeps is the definition without these
names (`modelOf_eq_ok`, `propertyOf_eq_ok`).

Which definitions there are is told by the description: the entries of one of its fields, but for
those that the dialect takes for extensions of the format (`Dialect.defines`). An outline has a
model for each of them, in their order, and a model has a property for each schema
(`decode_models`).
-/
import ApiOutline.Proofs.Extras
import ApiOutline.Proofs.Frame

set_option autoImplicit false

namespace ApiOutline

/-- The field in which a description has its definitions. -/
def Dialect.modelsField : Dialect → String
  | .listing => "models"
  | .paths => "definitions"

/-- Does a dialect know extensions of the format among its definitions? -/
def Dialect.skipsExtensions : Dialect → Bool
  | .listing => false
  | .paths => true

/-- Is a definition under this key one of a model? -/
def Dialect.defines (d : Dialect) : Scalar → Bool
  | .str name => !(d.skipsExtensions && Text.beginsWith "x-".toList name.toList)
  | _ => true

/-- What the record of a property has in its fields. -/
structure Property.ReadFrom (es : Value.Entries) (p : Property) : Prop where
  name : Mismatch.text (FieldName.any ⟨"name", "name"⟩ es) = .ok p.name
  camelCaseName : FieldName.text ⟨"camelCaseName", "camel_case_name"⟩ "" es = .of p.camelCaseName
  type : FieldName.text ⟨"type", "type"⟩ "" es = .of p.type
  extras : FieldName.extras Property.fieldNames es = .of p.extras

/-- A property that was read without problems has in each field what is read there. -/
theorem Property.readFrom_of_ofEntries {es : Value.Entries} {p : Property}
    (h : Property.ofEntries es = .ok p) : p.ReadFrom es := by
  obtain ⟨hproblems, rfl⟩ := Reading.record_eq_ok_iff.1 h
  simp only [List.append_eq_nil_iff] at hproblems
  obtain ⟨⟨⟨hname, hcamelCaseName⟩, htype⟩, hextras⟩ := hproblems
  constructor
  case name => exact Reading.text_of_no_problems hname
  case camelCaseName => exact Reading.eq_of_of_no_problems hcamelCaseName
  case type => exact Reading.eq_of_of_no_problems htype
  case extras => exact Reading.eq_of_of_no_problems hextras

/-- What the record of a model has in its fields. -/
structure Model.ReadFrom (es : Value.Entries) (m : Model) : Prop where
  name : Mismatch.text (FieldName.any ⟨"name", "name"⟩ es) = .ok m.name
  modelName : Mismatch.text (FieldName.any ⟨"modelName", "model_name"⟩ es) = .ok m.modelName
  version : FieldName.text? ⟨"version", "version"⟩ es = .of m.version
  extras : FieldName.extras Model.fieldNames es = .of m.extras

/-- So has a model, and its properties are those that it was given. -/
theorem Model.readFrom_of_ofEntries {properties : List Property} {es : Value.Entries} {m : Model}
    (h : Model.ofEntries properties es = .ok m) : m.properties = properties ∧ m.ReadFrom es := by
  obtain ⟨hproblems, rfl⟩ := Reading.record_eq_ok_iff.1 h
  simp only [List.append_eq_nil_iff] at hproblems
  obtain ⟨⟨⟨hname, hmodelName⟩, hversion⟩, hextras⟩ := hproblems
  refine ⟨rfl, ?_⟩
  constructor
  case name => exact Reading.text_of_no_problems hname
  case modelName => exact Reading.text_of_no_problems hmodelName
  case version => exact Reading.eq_of_of_no_problems hversion
  case extras => exact Reading.eq_of_of_no_problems hextras

namespace Decoding

open Outcome Value

/-- **Where something is put under the first name of every field, a record keeps the rest of its
node.** -/
theorem extras_of_assigned {fields : List FieldName} {es : Entries} {as : List (String × Value)}
    {xs : Extras} (h : FieldName.extras fields (es.assign as) = .of xs)
    (has : ∀ a ∈ as, a.1 ∈ fields.map (·.shown))
    (hall : ∀ f ∈ fields, (lastPut f.shown as).isSome = true) :
    Entries.ofTexts xs = es.beyond (fields.map (·.shown)) := by
  have hput : ∀ f ∈ fields, (lookup (.str f.shown) (es.assign as)).isSome = true := by
    intro f hf
    rw [lookup_assign, Option.isSome_or, hall f hf, Bool.true_or]
  rw [FieldName.entries_of_extras_assign h has, Entries.beyond]
  exact List.filter_congr fun e _ => FieldName.keeps_eq_isBeyond hput e.1

/-- What is made of an entry is made of its key and of the object that it holds. -/
def FromEntry {α : Type} (P : Scalar → Entries → α → Prop) (e : Scalar × Value) (a : α) : Prop :=
  ∃ es, e.2.entries = .ok es ∧ P e.1 es a

/-! ## Properties -/

/-- The property of a schema under a key. -/
structure PropertyOf (key : Scalar) (schema : Entries) (p : Property) : Prop where
  name : Mismatch.text ((schema.get "name").orElse (.scalar key)) = .ok p.name
  camelCaseName :
    Name.camelCaseOfValue ((schema.get "name").orElse (.scalar key)) = .ok p.camelCaseName
  type : ∃ type, capitalizedType (schema.get "type") = .ok type ∧ Mismatch.text type = .ok p.type
  extras : Entries.ofTexts p.extras = schema.beyond ["name", "camelCaseName", "type"]

/-- **A property is read from its schema, its key, and what follows from these.** Name, name in
camel case and type are put over the entries of the schema, so that these three are read from what
was put there and the rest from the schema. -/
theorem propertyOf_eq_ok {key : Scalar} {schema : Value} {p : Property}
    (h : propertyOf key schema = .ok p) : FromEntry PropertyOf (key, schema) p := by
  simp only [propertyOf, bind_eq_ok_iff] at h
  obtain ⟨-, -, node, hnode, camelCaseName, hcamel, es, hes, type, htype, hrecord⟩ := h
  rw [field_of_entries hes] at hnode
  obtain rfl := Except.ok.inj hnode
  refine ⟨es, hes, ?_⟩
  let name := (Entries.get es "name").orElse (.scalar key)
  let as := [("name", name), ("camelCaseName", .str camelCaseName), ("type", type)]
  have hread : p.ReadFrom (Entries.assign es as) := Property.readFrom_of_ofEntries hrecord
  -- what was put under the first name of a field is what the field is read from
  have hname : lookup (.str "name") (Entries.assign es as) = some name :=
    lookup_assign es as "name"
  have hcamelCaseName :
      lookup (.str "camelCaseName") (Entries.assign es as) = some (.str camelCaseName) :=
    lookup_assign es as "camelCaseName"
  have htypePut : lookup (.str "type") (Entries.assign es as) = some type :=
    lookup_assign es as "type"
  constructor
  case name =>
    have hnameRead := hread.name
    rw [FieldName.any_of_one_name, Entries.get_of_lookup hname] at hnameRead
    exact hnameRead
  case camelCaseName =>
    have hcamelRead := hread.camelCaseName
    rw [FieldName.text_of_lookup hcamelCaseName] at hcamelRead
    have hsame : camelCaseName = p.camelCaseName := congrArg Reading.value hcamelRead
    rw [← hsame]
    exact hcamel
  case type =>
    refine ⟨type, htype, ?_⟩
    rcases FieldName.text_of_one_name hread.type with ⟨hnone, _⟩ | htext
    · exact nomatch hnone.symm.trans htypePut
    · rw [Entries.get_of_lookup htypePut] at htext
      exact htext
  case extras =>
    refine extras_of_assigned hread.extras ?_ ?_
    · simp [as, Property.fieldNames]
    · simp [as, Property.fieldNames, lastPut]

/-! ## Models -/

/-- The model of a definition under a key: a property for each schema, in their order. -/
structure ModelOf (version : Option String) (key : Scalar) (definition : Entries) (m : Model) :
    Prop where
  name : Mismatch.text (.scalar key) = .ok m.name
  modelName : m.modelName = m.name
  version : m.version = version
  properties : ∃ schemas,
    ((definition.get "properties").orElse (.object [])).entries = .ok schemas ∧
      List.Forall₂ (FromEntry PropertyOf) schemas m.properties
  extras : Entries.ofTexts m.extras =
    definition.beyond ["name", "modelName", "version", "properties"]

/-- **A definition makes a property for each of its schemas**, in their order. -/
theorem propertiesOf_eq_ok {definition : Value} {es : Entries} (hes : definition.entries = .ok es)
    {properties : List Property} (h : propertiesOf definition = .ok properties) :
    ∃ schemas, ((es.get "properties").orElse (.object [])).entries = .ok schemas ∧
      List.Forall₂ (FromEntry PropertyOf) schemas properties := by
  simp only [propertiesOf, field_of_entries hes, ok_bind, bind_eq_ok_iff] at h
  obtain ⟨schemas, hschemas, hproperties⟩ := h
  refine ⟨schemas, hschemas, (mapM_eq_ok_iff.1 hproperties).imp ?_⟩
  intro e p hp
  exact propertyOf_eq_ok hp

/-- **A model is read from its definition and its key.** Both of its names are the key, whatever
the definition says there, since they are put over its entries. So is the version, as null where
none is stated. -/
theorem modelOf_eq_ok {version : Option String} {key : Scalar} {definition : Value} {m : Model}
    (h : modelOf version key definition = .ok m) :
    FromEntry (ModelOf version) (key, definition) m := by
  simp only [modelOf, bind_eq_ok_iff] at h
  obtain ⟨-, -, properties, hproperties, es, hes, hrecord⟩ := h
  refine ⟨es, hes, ?_⟩
  let stated := (version.map Value.str).getD .null
  let as := [("properties", .null), ("name", .scalar key), ("modelName", .scalar key),
    ("version", stated)]
  have hrecord' : Model.ofEntries properties (Entries.assign es as) = .ok m := hrecord
  obtain ⟨hsame, hread⟩ := Model.readFrom_of_ofEntries hrecord'
  have hname : lookup (.str "name") (Entries.assign es as) = some (.scalar key) :=
    lookup_assign es as "name"
  have hmodelName : lookup (.str "modelName") (Entries.assign es as) = some (.scalar key) :=
    lookup_assign es as "modelName"
  have hversion : lookup (.str "version") (Entries.assign es as) = some stated :=
    lookup_assign es as "version"
  have hkey : Mismatch.text (.scalar key) = .ok m.name := by
    have hnameRead := hread.name
    rw [FieldName.any_of_one_name, Entries.get_of_lookup hname] at hnameRead
    exact hnameRead
  constructor
  case name => exact hkey
  case modelName =>
    have hmodelRead := hread.modelName
    rw [FieldName.any, @FieldName.find?_of_lookup ⟨"modelName", "model_name"⟩ _ _ hmodelName]
      at hmodelRead
    exact Except.ok.inj (hmodelRead.symm.trans hkey)
  case version =>
    have hversionRead := FieldName.text?_of_one_name hread.version
    rw [Entries.get_of_lookup hversion] at hversionRead
    -- a version that is not stated is put in as null, which is read as none
    cases version with
    | none => exact (Except.ok.inj hversionRead).symm
    | some s => exact (Except.ok.inj hversionRead).symm
  case properties =>
    rw [hsame]
    exact propertiesOf_eq_ok hes hproperties
  case extras =>
    refine extras_of_assigned hread.extras ?_ ?_
    · simp [as, Model.fieldNames]
    · simp [as, Model.fieldNames, lastPut]

/-! ## Definitions -/

/-- A key that is looked at says whether its definition is one of a model. -/
theorem defines_of_isExtension {d : Dialect} (hd : d.skipsExtensions = true) {key : Scalar}
    {extension : Bool} (h : isExtension key = .ok extension) : d.defines key = !extension := by
  rw [isExtension] at h
  obtain ⟨name, hname, h⟩ := bind_eq_ok_iff.1 h
  have hkey := eq_str_of_asText hname
  injection hkey with hkey
  rw [hkey, Dialect.defines, hd, Bool.true_and, ← Except.ok.inj h]

/-- Where no extensions are known, every definition is one of a model. -/
theorem defines_of_not_skips {d : Dialect} (hd : d.skipsExtensions = false) (key : Scalar) :
    d.defines key = true := by
  unfold Dialect.defines
  split
  · rw [hd, Bool.false_and, Bool.not_false]
  · rfl

/-- **Every definition makes its model**, unless it is skipped. What is skipped makes nothing and
does not fail, so the models go along with the definitions that are left when the others are
filtered out. -/
theorem modelsOf_eq_ok {d : Dialect} {version : Option String} {definitions : Value}
    {models : List Model} (h : modelsOf d.skipsExtensions version definitions = .ok models) :
    ∃ stated, (definitions.orElse (.object [])).entries = .ok stated ∧
      List.Forall₂ (FromEntry (ModelOf version)) (stated.filter (d.defines ·.1)) models := by
  simp only [modelsOf, bind_eq_ok_iff] at h
  obtain ⟨stated, hstated, made, hmade, h⟩ := h
  refine ⟨stated, hstated, ?_⟩
  rw [← Except.ok.inj h, ← List.filterMap_eq_filter]
  refine List.rel_filterMap ?_ (mapM_eq_ok_iff.1 hmade)
  rintro ⟨key, definition⟩ found hfound
  have hmodel : (modelOf version key definition).map some = .ok found →
      Option.Rel (FromEntry (ModelOf version)) (some (key, definition)) (id found) := by
    intro hkept
    obtain ⟨m, hm, rfl⟩ := map_eq_ok_iff.1 hkept
    exact .some (modelOf_eq_ok hm)
  dsimp only at hfound
  split at hfound
  · next hskips =>
    obtain ⟨extension, hextension, hfound⟩ := bind_eq_ok_iff.1 hfound
    have hdefines := defines_of_isExtension hskips hextension
    cases extension with
    | true =>
      -- an extension leaves nothing, and is filtered out
      rw [Option.guard, if_neg (by rw [hdefines]; exact Bool.false_ne_true), ← Except.ok.inj hfound]
      exact .none
    | false =>
      rw [Option.guard, if_pos (by rw [hdefines, Bool.not_false])]
      exact hmodel hfound
  · next hkeeps =>
    rw [Option.guard, if_pos (defines_of_not_skips (Bool.not_eq_true _ ▸ hkeeps) key)]
    exact hmodel hfound

/-- **The models of an outline are those that its description defines**, one for each definition
and in the same order. Which field they are in, and whether some of them are extensions that are
skipped, is told by the dialect. -/
theorem decode_models {spec : Value} {o : Options} {s : Summary}
    (h : (decode spec o).outcome = .ok s) :
    ∃ (d : Dialect) (entries : Entries) (version : Option String) (stated : Entries),
      (select spec).outcome = .ok d ∧ spec.entries = .ok entries ∧
      serviceVersion d entries = .ok version ∧
      ((entries.get d.modelsField).orElse (.object [])).entries = .ok stated ∧
      List.Forall₂ (FromEntry (ModelOf version)) (stated.filter (d.defines ·.1)) s.models := by
  simp only [decode, Trace.outcome_bind, Trace.outcome_liftM, bind_eq_ok_iff] at h
  obtain ⟨d, hd, entries, hentries, summary, hsummary, hs⟩ := h
  obtain ⟨_, version, _, blank, _, hversion, _, hframe, rfl⟩ := decodeAs_eq_ok_iff.1 hsummary
  obtain rfl := Except.ok.inj hs
  -- the version that is put into the models is the one that the services have
  have hmodels : modelsOf d.skipsExtensions version (Entries.get entries d.modelsField) =
      .ok blank.models := by
    cases d with
    | listing =>
      simp only [frame, bind_eq_ok_iff] at hframe
      obtain ⟨-, -, summary, -, models, hmodels, hblank⟩ := hframe
      obtain rfl : none = version := Except.ok.inj hversion
      rw [← Except.ok.inj hblank]
      exact hmodels
    | paths =>
      simp only [frame, bind_eq_ok_iff] at hframe
      obtain ⟨head, hhead, summary, _, models, hmodels, hblank⟩ := hframe
      obtain rfl : head.version = version :=
        Except.ok.inj ((serviceVersion_of_pathsHead hhead).symm.trans hversion)
      rw [← Except.ok.inj hblank]
      exact hmodels
  obtain ⟨stated, hstated, hmade⟩ := modelsOf_eq_ok hmodels
  exact ⟨d, entries, version, stated, hd, hentries, hversion, hstated, hmade⟩

end Decoding

end ApiOutline
