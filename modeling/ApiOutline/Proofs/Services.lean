/-
The services of an outline.

Operations are filed by their first tag, and the services are what comes of that: one for each
key, in the order in which the keys first come up, with one method for each operation that has the
key, in document order (`Grouped`). Nothing is lost and nothing is made up, so there are as many
methods as operations.

A service is asked for by name, but filed by key, and a key may be written in octets where the
document language knows them. Octets are another key than the text they write, though both read the
same, so two services can have one name. Where keys are told apart by what they read as, and that is
so where all of them are texts, the names are as good as the keys.
-/
import ApiOutline.Proofs.Roster
import Mathlib.Algebra.BigOperators.Group.List.Lemmas
import Mathlib.Algebra.GroupWithZero.Nat

set_option autoImplicit false

namespace ApiOutline.Decoding

open Outcome

/-! ## What a run leaves behind -/

/-- The services of an outline are those of a roster that is the grouping of all operations. -/
theorem decode_files {spec : Value} {o : Options} {s : Summary}
    (h : (decode spec o).outcome = .ok s) :
    ∃ d entries ops version roster,
      spec.entries = .ok entries ∧ operations spec = .ok (d, ops) ∧
      serviceVersion d entries = .ok version ∧ Files d entries o version ops roster ∧
      s.services = roster.map (·.2.grouped) := by
  obtain ⟨d, entries, ops, version, roster, hentries, hops, hversion, hroster, hservices⟩ :=
    decode_eq_ok h
  refine ⟨d, entries, ops, version, roster, hentries, hops, hversion, files_of_foldlM hroster, ?_⟩
  rw [hservices, List.map_map]
  rfl

/-- A property of every service and the operations in it, key by key. -/
theorem Files.forall₂_services {d : Dialect} {spec : Value.Entries} {o : Options}
    {version : Option String} {ops : List Operation} {roster : Roster}
    (h : Files d spec o version ops roster) {P : Scalar → Service → Prop}
    (hP : ∀ key service, Holds d spec o version key (ops.filter (·.key o = key)) service →
      P key service.grouped) :
    List.Forall₂ P (ops.map (·.key o)).eraseDups (roster.map (·.2.grouped)) := by
  rw [← h.keys, List.forall₂_map_left_iff, List.forall₂_map_right_iff, List.forall₂_same]
  exact fun e he => hP e.1 e.2 (h.holds e he)

/-! ## Where a method stands -/

/-- A method that was made has the path and the verb that were stated for it, as texts. Had one of
them been no text, the record would have been refused. -/
theorem method_eq_ok {st : Stated} {name : String} {m : Method} (h : st.method name = .ok m) :
    Mismatch.text st.path = .ok m.path ∧ Mismatch.text st.verb = .ok m.verb := by
  obtain ⟨hproblems, rfl⟩ := Reading.record_eq_ok_iff.1 h
  rw [List.append_eq_nil_iff, List.append_eq_nil_iff, List.append_eq_nil_iff] at hproblems
  obtain ⟨⟨⟨hpath, hverb⟩, _⟩, _⟩ := hproblems
  exact ⟨Reading.text_of_no_problems hpath, Reading.text_of_no_problems hverb⟩

/-- A method stands at the path of its operation and has its verb. -/
theorem Operation.unnamed_reads {d : Dialect} {spec : Value.Entries} {o : Options} {op : Operation}
    {m : Method} (h : op.unnamed d spec o = .ok m) :
    Mismatch.text op.path = .ok m.path ∧ Mismatch.text op.verb = .ok m.verb := by
  cases d with
  | listing =>
    simp only [unnamed, unnamedListed, bind_eq_ok_iff] at h
    obtain ⟨_, _, stated, hstated, _, _, _, _, _, _, _, _, h⟩ := h
    rw [← Except.ok.inj h]
    exact method_eq_ok hstated
  | paths =>
    simp only [unnamed, unnamedKeyed, bind_eq_ok_iff] at h
    obtain ⟨_, _, stated, hstated, _, _, _, _, _, _, h⟩ := h
    rw [← Except.ok.inj h]
    exact method_eq_ok hstated

/-! ## The grouping -/

/-- Two operations whose keys read as the same text have the same key. -/
def Unambiguous (o : Options) (ops : List Operation) : Prop :=
  ∀ op ∈ ops, ∀ other ∈ ops, ∀ name,
    (op.key o).Reads name → (other.key o).Reads name → op.key o = other.key o

/-- The services of an outline are its operations, grouped by key. -/
structure Grouped (o : Options) (ops : List Operation) (s : Summary) : Prop where
  /-- The key of an operation is what the decoder files it under. -/
  filed : ∀ op ∈ ops, serviceTag o op.node = .ok (.scalar (op.key o))
  /-- One service for each key, in the order in which the keys first come up, with one method for
  each operation that has the key, in document order. -/
  services : List.Forall₂
    (fun key service => key.Reads service.name ∧
      List.Forall₂
        (fun op m => Mismatch.text op.path = .ok m.path ∧ Mismatch.text op.verb = .ok m.verb)
        (ops.filter (·.key o = key)) service.methods)
    (ops.map (·.key o)).eraseDups s.services
  /-- As many methods as operations. -/
  count : (s.services.map (·.methods.length)).sum = ops.length
  /-- Where all keys are texts, the services have them as names. -/
  names : (∀ op ∈ ops, ∃ tag, op.key o = .str tag) →
    s.services.map (.str ·.name) = (ops.map (·.key o)).eraseDups
  /-- No service is found under a name that is no key. -/
  missing : ∀ name, s.service? name = none ↔ ∀ op ∈ ops, ¬ (op.key o).Reads name
  /-- What is found under a name has it. -/
  found : ∀ name service, s.service? name = some service →
    service ∈ s.services ∧ service.name = name
  /-- Where keys are told apart by what they read as, no name is there twice, and every service is
  found under its own. -/
  distinct : Unambiguous o ops → (s.services.map (·.name)).Nodup ∧
    ∀ service ∈ s.services, s.service? service.name = some service

/-- What is found under a name is one of the services and has that name. -/
theorem of_service? {s : Summary} {name : String} {service : Service}
    (h : s.service? name = some service) : service ∈ s.services ∧ service.name = name := by
  rw [Summary.service?] at h
  have hname := List.find?_some h
  exact ⟨List.mem_of_find?_eq_some h, beq_iff_eq.1 hname⟩

section Parts

variable {d : Dialect} {spec : Value.Entries} {o : Options} {version : Option String}
  {ops : List Operation} {roster : Roster}

/-- Two lists that go together by the same image have the same list of images. -/
theorem map_eq_map_of_forall₂ {α β γ : Type} {f : α → γ} {g : β → γ} {as : List α} {bs : List β}
    (h : List.Forall₂ (fun a b => f a = g b) as bs) : as.map f = bs.map g := by
  rw [← List.forall₂_eq_eq_eq, List.forall₂_map_left_iff, List.forall₂_map_right_iff]
  exact h

/-- Sorted by key, the operations are still as many: each of them is counted under its own key and
under no other. -/
theorem sum_length_filter (ops : List Operation) :
    (((ops.map (·.key o)).eraseDups).map fun key => (ops.filter (·.key o = key)).length).sum =
      ops.length := by
  -- both lists have each key once, in orders of their own
  have hperm : (ops.map (·.key o)).eraseDups.Perm (ops.map (·.key o)).dedup := by
    rw [List.perm_ext_iff_of_nodup (nodup_eraseDups _) (List.nodup_dedup _)]
    intro key
    rw [List.mem_eraseDups, List.mem_dedup]
  have hcount : ∀ key, (ops.filter (·.key o = key)).length = (ops.map (·.key o)).count key := by
    intro key
    rw [List.count, List.countP_map, List.countP_eq_length_filter]
    rfl
  simp only [hcount]
  rw [(hperm.map _).sum_eq, List.sum_map_count_dedup_eq_length, List.length_map]

/-- The keys in a roster are those of the operations. -/
theorem Files.mem_keys_iff (h : Files d spec o version ops roster) {key : Scalar} :
    (∃ e ∈ roster, e.1 = key) ↔ ∃ op ∈ ops, op.key o = key := by
  rw [← List.mem_map, ← List.mem_map, h.keys, List.mem_eraseDups]

/-- Where keys are told apart by what they read as, one name belongs to one service. Services of
the same name have keys that read the same, hence the same key, and a roster has no key twice. -/
theorem Files.eq_of_name_eq (h : Files d spec o version ops roster) (hdistinct : Unambiguous o ops)
    {e f : Scalar × Service} (he : e ∈ roster) (hf : f ∈ roster)
    (hname : e.2.name = f.2.name) : e = f := by
  have hnodup : (roster.map (·.1)).Nodup := by
    rw [h.keys]
    exact nodup_eraseDups _
  obtain ⟨op, hop, hopkey⟩ := h.mem_keys_iff.1 ⟨e, he, rfl⟩
  obtain ⟨other, hother, hotherkey⟩ := h.mem_keys_iff.1 ⟨f, hf, rfl⟩
  -- it is enough that the keys are the same, and for that both names must come of one text
  refine List.inj_on_of_nodup_map hnodup he hf ?_
  have hkeys := hdistinct op hop other hother e.2.name
  rw [hopkey, hotherkey] at hkeys
  exact hkeys (h.holds e he).name (hname ▸ (h.holds f hf).name)

/-- There no two services of the outline have the same name. -/
theorem Files.services_nodup (h : Files d spec o version ops roster)
    (hdistinct : Unambiguous o ops) : ((roster.map (·.2.grouped)).map (·.name)).Nodup := by
  have hnodup : (roster.map (·.1)).Nodup := by
    rw [h.keys]
    exact nodup_eraseDups _
  rw [List.map_map]
  exact (hnodup.of_map _).map_on fun e he f hf hname => h.eq_of_name_eq hdistinct he hf hname

/-- A roster that is the grouping of all operations makes for services that are. Keys and services
stand in the same order, and a service has the name that its key reads as, so a name is found
exactly where some operation is filed under a key of that name. -/
theorem Files.grouped (h : Files d spec o version ops roster) {s : Summary}
    (hs : s.services = roster.map (·.2.grouped)) : Grouped o ops s := by
  have hservices : List.Forall₂
      (fun key service => key.Reads service.name ∧
        List.Forall₂
          (fun op m => Mismatch.text op.path = .ok m.path ∧ Mismatch.text op.verb = .ok m.verb)
          (ops.filter (·.key o = key)) service.methods)
      (ops.map (·.key o)).eraseDups s.services := by
    rw [hs]
    refine h.forall₂_services fun key service hservice => ⟨hservice.name, ?_⟩
    rw [Service.grouped, List.forall₂_map_right_iff]
    refine hservice.methods.imp ?_
    rintro op m ⟨unnamed, hunnamed, hm⟩
    rw [hm]
    have hreads := Operation.unnamed_reads hunnamed
    exact hreads
  refine ⟨h.filed, hservices, ?_, ?_, ?_, ?_, ?_⟩
  · -- key by key there are as many methods as operations
    rw [← sum_length_filter (o := o) ops]
    refine congrArg List.sum (map_eq_map_of_forall₂ (hservices.imp fun key service hkey => ?_)).symm
    exact hkey.2.length_eq
  · intro htexts
    rw [hs, ← h.keys, List.map_map]
    refine List.map_congr_left fun e he => ?_
    obtain ⟨op, hop, hkey⟩ := h.mem_keys_iff.1 ⟨e, he, rfl⟩
    obtain ⟨tag, htag⟩ := htexts op hop
    have hname := (h.holds e he).name
    rw [← hkey, htag] at hname ⊢
    exact congrArg Scalar.str (Except.ok.inj hname).symm
  -- a key reads as one name only, so to have the name is to be filed under such a key
  · intro name
    rw [Summary.service?, List.find?_eq_none, hs]
    constructor
    · intro hnone op hop hreads
      obtain ⟨e, he, hkey⟩ := h.mem_keys_iff.2 ⟨op, hop, rfl⟩
      refine hnone _ (List.mem_map_of_mem he) ?_
      have hname := (h.holds e he).name
      rw [hkey] at hname
      exact beq_iff_eq.2 (Except.ok.inj (hname.symm.trans hreads))
    · intro hnone service hservice hname
      obtain ⟨e, he, rfl⟩ := List.mem_map.1 hservice
      obtain ⟨op, hop, hkey⟩ := h.mem_keys_iff.1 ⟨e, he, rfl⟩
      refine hnone op hop ?_
      rw [hkey, ← beq_iff_eq.1 hname]
      exact (h.holds e he).name
  · exact fun name service hfound => of_service? hfound
  · intro hdistinct
    have hnodup := h.services_nodup hdistinct
    rw [← hs] at hnodup
    refine ⟨hnodup, fun service hservice => ?_⟩
    cases hfound : s.service? service.name with
    | none =>
      rw [Summary.service?, List.find?_eq_none] at hfound
      exact absurd (beq_self_eq_true _) (hfound service hservice)
    | some other =>
      obtain ⟨hmem, hname⟩ := of_service? hfound
      exact congrArg some (List.inj_on_of_nodup_map hnodup hmem hservice hname)

end Parts

/-- **The services of an outline are the operations of the description, grouped by key**: one
service for each key, in the order in which the keys first come up, and in it one method for each
operation with that key, in the order of the document. This holds of every outline, whatever its
description and the options. -/
theorem decode_grouped {spec : Value} {o : Options} {s : Summary}
    (h : (decode spec o).outcome = .ok s) :
    ∃ d ops, operations spec = .ok (d, ops) ∧ Grouped o ops s := by
  obtain ⟨d, entries, ops, version, roster, _, hops, _, hfiles, hservices⟩ := decode_files h
  exact ⟨d, ops, hops, hfiles.grouped hservices⟩

/-- Two paths with operations of three services, one of them named by default. -/
def petShop : Value :=
  .ofFields [("swagger", .str "2.0"), ("info", .object []), ("paths", .ofFields [
    ("/pets", .ofFields [
      ("get", .ofFields [("tags", .list [.str "pets"]), ("operationId", .str "fetch")]),
      ("Post", .ofFields [("tags", .list [.str "sales"]), ("operationId", .str "fetch")]),
      ("x-note", .str "none"),
      ("head", .ofFields [("operationId", .str "fetch")])]),
    ("/pets/old", .ofFields [
      ("get", .ofFields [("tags", .list [.str "pets"]), ("operationId", .str "fetch")]),
      ("put", .ofFields [("tags", .list [.str "pets"]), ("operationId", .str "pets.fetch2")])])])]

/-- The pet shop is decoded, and not refused. -/
theorem petShop_decodes : ∃ s, (decode petShop {}).outcome = .ok s :=
  exists_of_isOk (by decide +kernel)

/-- Its services are `pets`, `sales` and the one for operations without a tag, with the methods
filed under each. -/
theorem decode_grouped_petShop :
    ∃ s, (decode petShop {}).outcome = .ok s ∧
      ∃ d ops, operations petShop = .ok (d, ops) ∧ Grouped {} ops s := by
  obtain ⟨s, hs⟩ := petShop_decodes
  exact ⟨s, hs, decode_grouped hs⟩

/-- A tag in octets and one in letters that read the same. -/
def twoSpellings : Value :=
  .ofFields [("swagger", .str "2.0"), ("info", .object []), ("paths", .ofFields [
    ("/a", .ofFields [
      ("get", .ofFields [("tags", .list [.bytes [97]]), ("operationId", .str "x")]),
      ("post", .ofFields [("tags", .list [.str "a"]), ("operationId", .str "x")])])])]

/-- Services need not have different names: octets are another key than the text they write, and a
service is named by what its key reads as. Two services with one name are the outcome. -/
theorem not_names_nodup :
    ¬ ∀ (spec : Value) (o : Options) (s : Summary), (decode spec o).outcome = .ok s →
      (s.services.map (·.name)).Nodup := by
  intro hall
  -- both tags read `a`, and the keys under which they are filed are different
  have hnames : ((decode twoSpellings {}).outcome.toOption.map fun s => s.services.map (·.name)) =
      some ["a", "a"] := by
    decide +kernel
  rw [Option.map_eq_some_iff] at hnames
  obtain ⟨s, hs, hnames⟩ := hnames
  have hnodup := hall twoSpellings {} s (eq_ok_of_toOption hs)
  rw [hnames] at hnodup
  exact absurd hnodup (by decide)

end ApiOutline.Decoding
