/-
Records as they are handed out.

A parameter, a property and a model are handed out as their fields and what they kept. The lists in
a record are handed out element by element, so what is said of one parameter, property, method or
service holds of every element of the lists (`Summary.shows_of_form`).

A method has its parameters several times, once in all and then in groups. The groups are made of
the same parameters, so each of them comes out as a part of the list of all
(`Method.shows_of_form`).
-/
import ApiOutline.Outline.Groups
import ApiOutline.Proofs.Extras

set_option autoImplicit false

namespace ApiOutline

open Outcome Value

/-! ## Parameters and models -/

/-- A parameter is handed out as its fields and what it kept. -/
theorem Parameter.shows_of_form {p : Parameter} {v : Value} (h : p.form = .ok v) :
    Shows Parameter.fieldNames (Entries.ofTexts p.extras) v := by
  obtain ⟨singleton, _, hrecord⟩ := bind_eq_ok_iff.1 h
  exact shows_of_recordForm rfl hrecord

/-- So is a property. -/
theorem Property.shows_of_form {p : Property} {v : Value} (h : p.form = .ok v) :
    Shows Property.fieldNames (Entries.ofTexts p.extras) v :=
  shows_of_recordForm rfl h

/-- A model as it is handed out, and its properties in it. -/
theorem Model.shows_of_form {m : Model} {v : Value} (h : m.form = .ok v) :
    Shows Model.fieldNames (Entries.ofTexts m.extras) v ∧
      ∃ properties, v.entry "properties" = .ok (.list properties) ∧
        List.Forall₂ (fun p w => p.form = .ok w) m.properties properties := by
  obtain ⟨properties, hproperties, hrecord⟩ := bind_eq_ok_iff.1 h
  refine ⟨shows_of_recordForm rfl hrecord, properties, ?_, mapM_eq_ok_iff.1 hproperties⟩
  obtain ⟨others, _, rfl⟩ := map_eq_ok_iff.1 hrecord
  rfl

/-! ## Methods -/

section Parts

variable {α β : Type} {f : α → Except Fault β} {keep : α → Bool} {as : List α} {bs : List β}

/-- Some of the elements come out as a part of what all of them come out as. By induction along
the elements: an element that is among them comes out alike in both lists, since coming out has
one outcome. -/
theorem sublist_of_mapM_filter {cs : List β} (hbs : as.mapM f = .ok bs)
    (hcs : (as.filter keep).mapM f = .ok cs) : cs.Sublist bs := by
  induction as generalizing bs cs with
  | nil =>
    rw [mapM_nil_eq_ok_iff.1 hcs]
    exact List.nil_sublist bs
  | cons a as ih =>
    obtain ⟨b, rest, hb, hrest, rfl⟩ := mapM_cons_eq_ok_iff.1 hbs
    rw [List.filter_cons] at hcs
    split at hcs
    · obtain ⟨c, others, hc, hothers, rfl⟩ := mapM_cons_eq_ok_iff.1 hcs
      obtain rfl : b = c := Except.ok.inj (hb.symm.trans hc)
      exact (ih hrest hothers).cons_cons b
    · exact (ih hrest hcs).cons b

/-- The one element that a search finds comes out as one of those that all of them come out as. -/
theorem mem_of_mapM_find? {a : α} {b : β} (hbs : as.mapM f = .ok bs)
    (ha : as.find? keep = some a) (hb : f a = .ok b) : b ∈ bs := by
  obtain ⟨c, hc, hfc⟩ := exists_of_forall₂ (mapM_eq_ok_iff.1 hbs) (List.mem_of_find?_eq_some ha)
  rw [Except.ok.inj (hb.symm.trans hfc)]
  exact hc

end Parts

/-- The fields of a method that have some of its parameters. -/
def Method.groupFields : List String :=
  ["pathParams", "queryParams", "headerParams", "formParams", "requiredParams", "optionalParams"]

/-- A method whose parameters come out as this list. Those in its groups are a part of it. -/
structure Method.ShowsParameters (ps : List Value) (v : Value) : Prop where
  parameters : v.entry "parameters" = .ok (.list ps)
  groups : ∀ name ∈ Method.groupFields, ∃ group, v.entry name = .ok (.list group) ∧ group.Sublist ps
  bodyParam : ∃ body, v.entry "bodyParam" = .ok body ∧ (body = .null ∨ body ∈ ps)

/-- **A method is handed out with all of its parameters**, and in its groups there is none that is
not among them. -/
theorem Method.shows_of_form {m : Method} {v : Value} (hgroups : m.grouped = m)
    (h : m.form = .ok v) : ∃ ps, List.Forall₂ (fun p w => p.form = .ok w) m.parameters ps ∧
      Method.ShowsParameters ps v := by
  -- in this form every group is written as a part of the parameters
  rw [← hgroups] at h
  simp only [Method.form, parametersForm, bind_eq_ok_iff, map_eq_ok_iff] at h
  obtain ⟨_, _, _, ⟨ps, hps, rfl⟩, _, _, _, _, _, ⟨path, hpath, rfl⟩, _, ⟨query, hquery, rfl⟩, _,
    ⟨header, hheader, rfl⟩, _, ⟨form, hform, rfl⟩, _, ⟨required, hrequired, rfl⟩, _,
    ⟨optional, hoptional, rfl⟩, body, hbody, h⟩ := h
  rw [← Except.ok.inj h]
  refine ⟨ps, mapM_eq_ok_iff.1 hps, ?_⟩
  constructor
  case parameters => rfl
  case groups =>
    simp only [Method.groupFields, List.forall_mem_cons]
    refine ⟨⟨path, rfl, sublist_of_mapM_filter hps hpath⟩,
      ⟨query, rfl, sublist_of_mapM_filter hps hquery⟩,
      ⟨header, rfl, sublist_of_mapM_filter hps hheader⟩,
      ⟨form, rfl, sublist_of_mapM_filter hps hform⟩,
      ⟨required, rfl, sublist_of_mapM_filter hps hrequired⟩,
      ⟨optional, rfl, sublist_of_mapM_filter hps hoptional⟩, ?_⟩
    exact fun name hname => absurd hname List.not_mem_nil
  case bodyParam =>
    refine ⟨body, rfl, ?_⟩
    -- there is no parameter of the body, or the first of those that are
    cases hfound : m.grouped.bodyParam with
    | none =>
      rw [hfound] at hbody
      exact .inl (Except.ok.inj hbody).symm
    | some p =>
      rw [hfound] at hbody
      exact .inr (mem_of_mapM_find? hps hfound hbody)

/-! ## Outlines -/

/-- A service is handed out with all of its methods, in their order. -/
theorem Service.shows_of_form {s : Service} {v : Value} (h : s.form = .ok v) :
    ∃ methods, v.entry "methods" = .ok (.list methods) ∧
      List.Forall₂ (fun m w => m.form = .ok w) s.methods methods := by
  obtain ⟨methods, hmethods, h⟩ := bind_eq_ok_iff.1 h
  rw [← Except.ok.inj h]
  exact ⟨methods, rfl, mapM_eq_ok_iff.1 hmethods⟩

/-- An outline is handed out with all of its services and models. -/
theorem Summary.shows_of_form {s : Summary} {v : Value} (h : s.form = .ok v) :
    ∃ services models, v.entry "services" = .ok (.list services) ∧
      v.entry "models" = .ok (.list models) ∧
      List.Forall₂ (fun s w => s.form = .ok w) s.services services ∧
      List.Forall₂ (fun m w => m.form = .ok w) s.models models := by
  simp only [Summary.form, bind_eq_ok_iff] at h
  obtain ⟨services, hservices, models, hmodels, h⟩ := h
  rw [← Except.ok.inj h]
  exact ⟨services, models, rfl, rfl, mapM_eq_ok_iff.1 hservices, mapM_eq_ok_iff.1 hmodels⟩

end ApiOutline
