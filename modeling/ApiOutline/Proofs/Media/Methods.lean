/-
Media types, method by method.

Every method has the media types of its operation, and the headers that announce them are all that
it has. The rest of a method does not depend on the lists of the description. Where these are
replaced by other lists, an operation makes the same method with other media types
(`unnamed_eq_map`), and it gets the same name, since names are given without a look at them
(`exists_methods_of_holds`). So the outlines of two such descriptions stand side by side, method by
method (`SideBySide`), and an operation that lists types of both kinds itself has the same method in
both.
-/
import ApiOutline.Proofs.Admission
import ApiOutline.Proofs.Frame
import ApiOutline.Proofs.Media.Types
import ApiOutline.Proofs.Methods

set_option autoImplicit false

namespace ApiOutline.Decoding

open Outcome Value

/-! ## Two descriptions with other lists -/

/-- The fields of a description that list media types. -/
def mediaFields : List String :=
  ["produces", "consumes"]

/-- The second description differs from the first in its lists of media types alone. -/
def OtherMedia (a b : Value.Entries) : Prop :=
  ∀ name, name ∉ mediaFields → lookup (.str name) a = lookup (.str name) b

theorem OtherMedia.agreeOn {a b : Value.Entries} (h : OtherMedia a b) {names : List String}
    (hnames : ∀ name ∈ names, name ∉ mediaFields) : AgreeOn names a b :=
  fun name hmem => h name (hnames name hmem)

/-- The method with the media types of an operation, and with the headers that announce them. -/
def mediated (d : Dialect) (spec operation : Value.Entries) (m : Method) : Method :=
  { m with
    accepts := (acceptedTypes spec operation).map .str
    contentTypes := (sentTypes spec operation).map .str
    headers := mediaHeaders d (acceptedTypes spec operation) (sentTypes spec operation) }

/-- **Of the lists of a description a method takes its media types and nothing else.** Everything
else it asks for is the same before and after. The media types are put into a record that has no
headers yet, so nothing of the old ones is left. -/
theorem unnamed_eq_map {d : Dialect} {a b es : Value.Entries} {o : Options} {op : Operation}
    (hes : op.node.entries = .ok es) (ha : ListsTypes a) (hb : ListsTypes b) (hown : ListsTypes es)
    (hab : OtherMedia a b) :
    op.unnamed d b o = (op.unnamed d a o).map (mediated d b es) := by
  -- the record of a method has no headers before its media types are put in
  have hstated : ∀ {st : Stated} {name : String} {m : Method}, st.method name = .ok m →
      m = { m with headers := [] } := by
    intro st name m h
    obtain ⟨_, rfl⟩ := Reading.record_eq_ok_iff.1 h
    rfl
  cases d with
  | listing =>
    have hhead : listingHead a = listingHead b := listingHead_of_agreeOn (hab.agreeOn (by decide))
    simp only [Operation.unnamed, Operation.unnamedListed, hes, ok_bind, mediaOf_eq ha hown,
      mediaOf_eq hb hown, contentTypeHeaders_eq, hhead, bind_map]
    refine bind_congr_ok fun m hm => bind_congr_ok fun nodes _ => bind_congr_ok fun ps _ => ?_
    rw [hstated hm]
    rfl
  | paths =>
    have hagree : AgreeOn ["security", "parameters"] a b := hab.agreeOn (by decide)
    have hsecurity : a.get "security" = b.get "security" := hagree.get_eq (by decide)
    have hparameters : a.get "parameters" = b.get "parameters" := hagree.get_eq (by decide)
    simp only [Operation.unnamed, Operation.unnamedKeyed, hes, ok_bind, mediaOf_eq ha hown,
      mediaOf_eq hb hown, hsecurity, pathsParameter_congr o hparameters, bind_map]
    refine bind_congr_ok fun m hm => bind_congr_ok fun nodes _ => bind_congr_ok fun ps _ => ?_
    rw [hstated hm]
    rfl

/-! ## Method by method -/

/-- What a method has for media types and headers, if it is made of that operation. -/
structure HasMedia (d : Dialect) (spec operation : Value.Entries) (m : Method) : Prop where
  accepts : m.accepts = (acceptedTypes spec operation).map .str
  contentTypes : m.contentTypes = (sentTypes spec operation).map .str
  headers : m.headers = mediaHeaders d (acceptedTypes spec operation) (sentTypes spec operation)

/-- Two outlines of the same operations have a method for each of them, and these are related. -/
def SideBySide (o : Options) (ops : List Operation) (s s' : Summary)
    (R : Operation → Method → Method → Prop) : Prop :=
  ∃ pairs : List (Service × Service), s.services = pairs.map (·.1) ∧
    s'.services = pairs.map (·.2) ∧
    List.Forall₂ (fun key pair =>
      ∃ methods : List (Method × Method), pair.1.methods = methods.map (·.1) ∧
        pair.2.methods = methods.map (·.2) ∧
        List.Forall₂ (fun op two => R op two.1 two.2) (ops.filter (·.key o = key)) methods)
      (ops.map (·.key o)).eraseDups pairs

/-- What is said of methods side by side may be weakened, with regard to the operations of the
description only. -/
theorem SideBySide.imp_of_mem {o : Options} {ops : List Operation} {s s' : Summary}
    {R Q : Operation → Method → Method → Prop} (h : SideBySide o ops s s' R)
    (hRQ : ∀ op ∈ ops, ∀ m m', R op m m' → Q op m m') : SideBySide o ops s s' Q := by
  obtain ⟨pairs, hfirst, hsecond, hpairs⟩ := h
  refine ⟨pairs, hfirst, hsecond, hpairs.imp ?_⟩
  rintro key pair ⟨methods, hmethods, hmethods', htwo⟩
  have hmem : ∀ op ∈ ops.filter (·.key o = key), op ∈ ops :=
    fun op hop => (List.mem_filter.1 hop).1
  have hboth := (List.forall₂_and_left _ _).2 ⟨hmem, htwo⟩
  exact ⟨methods, hmethods, hmethods',
    hboth.imp fun op two htwo => hRQ op htwo.1 two.1 two.2 htwo.2⟩

section TwoDescriptions

variable {d : Dialect} {a b : Value.Entries} {o : Options} {version version' : Option String}
  {ops : List Operation}

/-- Under one key the same operations make methods with the same names. A name depends on the
service's own name and on the names before it, and both are the same on the two sides. -/
theorem exists_methods_of_holds {key : Scalar} {service service' : Service}
    (h : Holds d a o version key ops service) (h' : Holds d b o version' key ops service') :
    ∃ methods : List (Method × Method), service.methods = methods.map (·.1) ∧
      service'.methods = methods.map (·.2) ∧
      List.Forall₂ (fun op two => ∃ unnamed unnamed' name, op.unnamed d a o = .ok unnamed ∧
        op.unnamed d b o = .ok unnamed' ∧ two.1 = unnamed.renamed name ∧
        two.2 = unnamed'.renamed name) ops methods := by
  obtain ⟨bases, hbases, hnames⟩ := h.names
  obtain ⟨bases', hbases', hnames'⟩ := h'.names
  obtain ⟨methods, hfirst, hsecond, hmethods⟩ := exists_pairs_of_both h.methods h'.methods
  -- the service is called the same, so the same identifiers are asked for in the same order
  have hname : service.name = service'.name := Except.ok.inj (h.name.symm.trans h'.name)
  have hsame : bases = bases' := by
    have hasked : List.Forall₂ (fun op base => op.base d service = .ok base) ops bases' :=
      hbases'.imp fun op base hbase => by rw [Operation.base_congr hname, hbase]
    refine List.right_unique_forall₂' (fun _ _ _ hb hc => ?_) hbases hasked
    exact Except.ok.inj (hb.symm.trans hc)
  have hgiven : ∀ two ∈ methods, two.1.methodName = two.2.methodName := by
    have hboth : service.methodNames = service'.methodNames := by rw [hnames, hnames', hsame]
    rw [Service.methodNames, Service.methodNames, hfirst, hsecond, List.map_map, List.map_map]
      at hboth
    exact List.map_inj_left.1 hboth
  refine ⟨methods, hfirst, hsecond, ?_⟩
  have hflip := (List.forall₂_and_left _ _).2 ⟨hgiven, hmethods.flip⟩
  refine hflip.flip.imp ?_
  rintro op two ⟨hnamed, ⟨unnamed, hunnamed, hm⟩, unnamed', hunnamed', hm'⟩
  refine ⟨unnamed, unnamed', two.1.methodName, hunnamed, hunnamed', hm, ?_⟩
  rw [hnamed]
  exact hm'

/-- **The same operations filed for two descriptions make outlines that can be put side by side**:
services by their keys, methods by their operations, and the two methods of an operation under one
name. -/
theorem sideBySide_of_files {roster roster' : Roster} (h : Files d a o version ops roster)
    (h' : Files d b o version' ops roster') {s s' : Summary}
    (hs : s.services = roster.map (·.2.grouped)) (hs' : s'.services = roster'.map (·.2.grouped)) :
    SideBySide o ops s s' fun op m m' => ∃ unnamed unnamed' name, op.unnamed d a o = .ok unnamed ∧
      op.unnamed d b o = .ok unnamed' ∧ m = (unnamed.renamed name).grouped ∧
      m' = (unnamed'.renamed name).grouped := by
  have hfiled : ∀ {spec : Value.Entries} {version : Option String} {roster : Roster},
      Files d spec o version ops roster →
      List.Forall₂ (fun key service => ∃ filed, service = Service.grouped filed ∧
          Holds d spec o version key (ops.filter (·.key o = key)) filed)
        (ops.map (·.key o)).eraseDups (roster.map (·.2.grouped)) :=
    fun hfiles => hfiles.forall₂_services fun key filed hholds => ⟨filed, rfl, hholds⟩
  obtain ⟨pairs, hfirst, hsecond, hpairs⟩ := exists_pairs_of_both (hfiled h) (hfiled h')
  refine ⟨pairs, hs.trans hfirst, hs'.trans hsecond, hpairs.imp ?_⟩
  rintro key ⟨_, _⟩ ⟨⟨filed, rfl, hholds⟩, filed', rfl, hholds'⟩
  obtain ⟨methods, hmethods, hmethods', htwo⟩ := exists_methods_of_holds hholds hholds'
  refine ⟨methods.map fun two => (two.1.grouped, two.2.grouped), ?_, ?_, ?_⟩
  · change filed.methods.map Method.grouped = _
    rw [hmethods, List.map_map, List.map_map]
    rfl
  · change filed'.methods.map Method.grouped = _
    rw [hmethods', List.map_map, List.map_map]
    rfl
  · rw [List.forall₂_map_right_iff]
    refine htwo.imp ?_
    rintro op two ⟨unnamed, unnamed', name, hunnamed, hunnamed', hm, hm'⟩
    exact ⟨unnamed, unnamed', name, hunnamed, hunnamed', congrArg Method.grouped hm,
      congrArg Method.grouped hm'⟩

end TwoDescriptions

/-! ## The outline -/

/-- An operation of which a method was made is an object. -/
theorem exists_entries_of_unnamed {d : Dialect} {spec : Value.Entries} {o : Options}
    {op : Operation} {m : Method} (h : op.unnamed d spec o = .ok m) :
    ∃ es, op.node.entries = .ok es := by
  cases d with
  | listing =>
    simp only [Operation.unnamed, Operation.unnamedListed, bind_eq_ok_iff] at h
    exact h.imp fun es hes => hes.1
  | paths =>
    simp only [Operation.unnamed, Operation.unnamedKeyed, bind_eq_ok_iff] at h
    exact h.imp fun es hes => hes.1

/-- What an operation lists itself is not asked of the description. -/
theorem mediated_of_own {d : Dialect} {a b es : Value.Entries} (hown : ListsTypes es)
    (hproduces : es.get "produces" ≠ .null) (hconsumes : es.get "consumes" ≠ .null) (m : Method) :
    mediated d b es m = mediated d a es m := by
  have hlisted : ∀ {v : Value}, TextList v → v ≠ .null → ∃ types, typesIn v = some types := by
    rintro v (hnull | ⟨types, hopened⟩) hpresent
    · exact absurd hnull hpresent
    · exact ⟨types, typesIn_of_opened hopened⟩
  obtain ⟨accepted, haccepted⟩ := hlisted hown.produces hproduces
  obtain ⟨sent, hsent⟩ := hlisted hown.consumes hconsumes
  simp only [mediated, acceptedTypes, sentTypes, haccepted, hsent]

/-- A description that lists media types as texts, if it states any, as a whole and for its
operations. -/
structure ListsAllTypes (spec : Value.Entries) : Prop where
  whole : ListsTypes spec
  each : ∀ d ops, operations (.object spec) = .ok (d, ops) →
    ∀ op ∈ ops, ∀ es, op.node.entries = .ok es → ListsTypes es

section Outline

variable {d : Dialect} {a b : Value.Entries} {o : Options} {ops : List Operation} {s : Summary}

/-- A method has the media types of its operation. -/
theorem eq_mediated (ha : ListsAllTypes a) (hops : operations (.object a) = .ok (d, ops))
    {op : Operation} (hop : op ∈ ops) {unnamed : Method} (h : op.unnamed d a o = .ok unnamed) :
    ∃ es, op.node.entries = .ok es ∧ ListsTypes es ∧ unnamed = mediated d a es unnamed := by
  obtain ⟨es, hes⟩ := exists_entries_of_unnamed h
  have hown : ListsTypes es := ha.each d ops hops op hop es hes
  have hsame : OtherMedia a a := fun _ _ => rfl
  have hmap := unnamed_eq_map (o := o) (d := d) hes ha.whole ha.whole hown hsame
  rw [h] at hmap
  exact ⟨es, hes, hown, Except.ok.inj hmap⟩

/-- A description with other lists has an outline, too, with the same methods but for their media
types. Whether an operation can be filed is told by the operation itself, and its method is made
with any lists of texts; so all operations can be filed with the other lists as well. -/
theorem decode_otherMedia (ha : ListsAllTypes a) (hb : ListsTypes b) (hab : OtherMedia a b)
    (hops : operations (.object a) = .ok (d, ops)) (h : (decode (.object a) o).outcome = .ok s) :
    ∃ s', (decode (.object b) o).outcome = .ok s' ∧
      SideBySide o ops s s' fun op m m' => ∃ es, op.node.entries = .ok es ∧ ListsTypes es ∧
        m = mediated d a es m ∧ m' = mediated d b es m := by
  obtain ⟨entries, hd, hentries, hopsAs⟩ := operations_eq_ok_iff.1 hops
  obtain rfl : a = entries := Except.ok.inj hentries
  have hd' : (select (.object b)).outcome = .ok d := by
    rw [← select_of_agreeOn (hab.agreeOn (by decide)), hd]
  have hitems : AgreeOn [d.itemsField] a b := hab.agreeOn (by cases d <;> decide)
  have hframed : AgreeOn (frameFields d) a b := hab.agreeOn (by cases d <;> decide)
  obtain ⟨_, version, roster, blank, hops', hversion, hroster, hframe, rfl⟩ :=
    (decode_eq_ok_iff hd).1 h
  obtain rfl := Except.ok.inj (hopsAs.symm.trans hops')
  -- an operation is filed on its own account, and its method is made with the other lists as well
  have hadmissible : ∀ op ∈ ops, Admissible d b o op := by
    intro op hop
    obtain ⟨hfiled, hnamed, unnamed, hunnamed⟩ := foldlM_add_iff.1 ⟨roster, hroster⟩ op hop
    obtain ⟨es, hes, hown, -⟩ := eq_mediated ha hops hop hunnamed
    refine ⟨hfiled, hnamed, mediated d b es unnamed, ?_⟩
    rw [unnamed_eq_map hes ha.whole hb hown hab, hunnamed]
    rfl
  obtain ⟨roster', hroster'⟩ := foldlM_add_iff.2 hadmissible
  refine ⟨_,
    (decode_eq_ok_iff hd').2 ⟨ops, version, roster', blank, ?_, ?_, hroster', ?_, rfl⟩, ?_⟩
  · rw [← operationsAs_of_agreeOn hitems, hopsAs]
  · rw [← serviceVersion_of_agreeOn hframed, hversion]
  · rw [← frame_of_agreeOn hframed, hframe]
  · refine (sideBySide_of_files (files_of_foldlM hroster) (files_of_foldlM hroster') rfl
      rfl).imp_of_mem fun op hop m m' hmade => ?_
    obtain ⟨unnamed, unnamed', name, hunnamed, hunnamed', rfl, rfl⟩ := hmade
    obtain ⟨es, hes, hown, hmediated⟩ := eq_mediated ha hops hop hunnamed
    rw [unnamed_eq_map hes ha.whole hb hown hab, hunnamed] at hunnamed'
    obtain rfl : mediated d b es unnamed = unnamed' := Except.ok.inj hunnamed'
    refine ⟨es, hes, hown, ?_, rfl⟩
    exact congrArg (fun m : Method => (m.renamed name).grouped) hmediated

/-- **Media types, headers and what goes before what.** An outline of a description that lists its
media types as texts has, for each operation, a method with the media types that the operation lists
or else the description, and with the headers that announce them and no others. If the lists of the
description are replaced by other ones, there is an outline again, and the methods of operations
that list types of both kinds themselves are the same. -/
theorem decode_media (ha : ListsAllTypes a) (h : (decode (.object a) o).outcome = .ok s) :
    ∃ d ops, operations (.object a) = .ok (d, ops) ∧
      EachMethod o ops s (fun op m => ∃ es, op.node.entries = .ok es ∧ HasMedia d a es m) ∧
      ∀ b, ListsTypes b → OtherMedia a b → ∃ s', (decode (.object b) o).outcome = .ok s' ∧
        SideBySide o ops s s' fun op m m' => ∃ es : Value.Entries, op.node.entries = .ok es ∧
          (es.get "produces" ≠ .null → es.get "consumes" ≠ .null → m = m') := by
  obtain ⟨d, entries, ops, hentries, hops, hmethods⟩ := decode_unnamed h
  obtain rfl : a = entries := Except.ok.inj hentries
  refine ⟨d, ops, hops, ?_, fun b hb hab => ?_⟩
  · refine hmethods.imp_of_mem fun op hop m hmade => ?_
    obtain ⟨unnamed, name, hunnamed, rfl⟩ := hmade
    obtain ⟨es, hes, -, hmediated⟩ := eq_mediated ha hops hop hunnamed
    rw [hmediated]
    exact ⟨es, hes, ⟨rfl, rfl, rfl⟩⟩
  · obtain ⟨s', hs', hboth⟩ := decode_otherMedia ha hb hab hops h
    refine ⟨s', hs', hboth.imp_of_mem fun op _ m m' hmade => ?_⟩
    obtain ⟨es, hes, hown, hm, hm'⟩ := hmade
    refine ⟨es, hes, fun hproduces hconsumes => ?_⟩
    rw [hm', mediated_of_own hown hproduces hconsumes]
    exact hm

end Outline

/-- An operation that leaves its media types to the description. -/
def listCards : Value :=
  .ofFields [("method", .str "GET"), ("nickname", .str "list")]

/-- An operation that has no answers and takes lists of its own. -/
def storeCards : Value :=
  .ofFields [("method", .str "POST"), ("nickname", .str "store"), ("produces", .list []),
    ("consumes", .list [.str "text/csv"])]

/-- A listing of both. -/
def cardIndex : Value.Entries :=
  [(.str "swaggerVersion", .str "1.2"),
    (.str "produces", .list [.str "text/csv", .str "application/json"]),
    (.str "apis", .list [.ofFields [("path", .str "/cards"),
      ("operations", .list [listCards, storeCards])]])]

/-- It can be listed otherwise what is sent where an operation does not say it, and the method of
an operation that says it stays the same. -/
theorem decode_media_cardIndex :
    let other := cardIndex.set "consumes" (.list [.str "text/plain"])
    ∃ s s' d ops, (decode (.object cardIndex) {}).outcome = .ok s ∧
      (decode (.object other) {}).outcome = .ok s' ∧
      operations (.object cardIndex) = .ok (d, ops) ∧
      EachMethod {} ops s (fun op m =>
        ∃ es, op.node.entries = .ok es ∧ HasMedia d cardIndex es m) ∧
      SideBySide {} ops s s' fun op m m' => ∃ es : Value.Entries, op.node.entries = .ok es ∧
        (es.get "produces" ≠ .null → es.get "consumes" ≠ .null → m = m') := by
  have hops : operations (.object cardIndex) = .ok (.listing,
      [⟨.str "/cards", .str "GET", .list [], listCards⟩,
        ⟨.str "/cards", .str "POST", .list [], storeCards⟩]) := rfl
  have hall : ListsAllTypes cardIndex := by
    constructor
    case whole => exact ⟨.inr ⟨["text/csv", "application/json"], rfl⟩, .inl rfl⟩
    case each =>
      intro d ops hoperations op hop es hes
      obtain ⟨rfl, rfl⟩ := Prod.mk.inj (Except.ok.inj (hops.symm.trans hoperations))
      rcases List.mem_cons.1 hop with rfl | hop
      · obtain rfl := Except.ok.inj hes
        exact ⟨.inl rfl, .inl rfl⟩
      · obtain rfl := List.mem_singleton.1 hop
        obtain rfl := Except.ok.inj hes
        exact ⟨.inr ⟨[], rfl⟩, .inr ⟨["text/csv"], rfl⟩⟩
  have hdiffer : OtherMedia cardIndex (cardIndex.set "consumes" (.list [.str "text/plain"])) := by
    intro name hname
    refine agreeBut_set cardIndex "consumes" _ name ?_
    rintro rfl
    exact hname (by decide)
  obtain ⟨s, hs⟩ : ∃ s, (decode (.object cardIndex) {}).outcome = .ok s :=
    exists_of_isOk (by decide +kernel)
  obtain ⟨d, ops, hoperations, hmethods, hother⟩ := decode_media hall hs
  obtain ⟨s', hs', hboth⟩ := hother _
    ⟨.inr ⟨["text/csv", "application/json"], rfl⟩, .inr ⟨["text/plain"], rfl⟩⟩ hdiffer
  exact ⟨s, s', d, ops, hs, hs', hoperations, hmethods, hboth⟩

end ApiOutline.Decoding
