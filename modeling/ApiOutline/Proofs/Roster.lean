/-
What the roster holds after any number of operations.

The roster is a list that is looked through and changed in place, and a service in it is a record
that grows. What all of it amounts to is a grouping: the keys of the roster are the keys of the
operations, each once, in the order in which they first come up, and the service under a key is
made of the operations with that key alone, in their order (`Files`). One operation keeps this
(`Files.add`), so every run does (`files_of_foldlM`).

The roster compares keys by what they are worth, so that `1` and `1.0` are one key. This makes no
difference in the end: a service is only opened under a key that reads as a text, and such a key is
worth the same as no other.
-/
import ApiOutline.Proofs.Name.Free
import ApiOutline.Proofs.Walk

set_option autoImplicit false

namespace ApiOutline

/-! ## Keys that are texts -/

/-- A key that reads as a text: a text itself, or octets that write one. -/
def Scalar.Reads (key : Scalar) (name : String) : Prop :=
  Mismatch.text (.scalar key) = .ok name

/-- **A key that reads as a text is worth the same as no other key**, so looking for it is looking
for that very key. -/
theorem Scalar.same_of_reads {key : Scalar} {name : String} (h : key.Reads name)
    (other : Scalar) : key.same other = decide (key = other) := by
  cases key with
  | str s =>
    cases other with
    | float x => cases hx : x.toInt? <;> simp [same, asInt?, hx]
    | _ => simp [same, asInt?, beq_eq_decide]
  | bytes bs =>
    cases other with
    | float x => cases hx : x.toInt? <;> simp [same, asInt?, hx]
    | _ => simp [same, asInt?, beq_eq_decide]
  | _ => cases h

/-! ## Repetitions left out -/

section EraseDups

variable {α : Type} [DecidableEq α]

/-- What is left without repetitions has none. The recursion filters the rest of the list, so the
induction is on the length. -/
theorem nodup_eraseDups (xs : List α) : xs.eraseDups.Nodup := by
  match xs with
  | [] => exact List.nodup_nil
  | x :: rest =>
    rw [List.eraseDups_cons]
    refine List.nodup_cons.2 ⟨fun hmem => ?_, nodup_eraseDups _⟩
    rw [List.mem_eraseDups, List.mem_filter, beq_self_eq_true] at hmem
    exact absurd hmem.2 (by decide)
termination_by xs.length
decreasing_by exact Nat.lt_succ_of_le (List.length_filter_le ..)

/-- One element more changes a list without repetitions only if it is new, and then it comes last.
-/
theorem eraseDups_append_singleton (xs : List α) (x : α) :
    (xs ++ [x]).eraseDups = if x ∈ xs.eraseDups then xs.eraseDups else xs.eraseDups ++ [x] := by
  rw [List.eraseDups_append, List.removeAll, List.filter_singleton]
  by_cases hx : x ∈ xs
  · rw [if_pos (List.mem_eraseDups.2 hx), List.elem_iff.2 hx]
    exact List.append_nil _
  · have hfree : List.elem x xs = false := Bool.not_eq_true _ ▸ mt List.elem_iff.1 hx
    rw [if_neg (mt List.mem_eraseDups.1 hx), hfree]
    rfl

end EraseDups

namespace Decoding

open Outcome

/-! ## Services under keys that are texts -/

namespace Roster

/-- All services stand under keys that read as texts. -/
def Readable (roster : Roster) : Prop :=
  ∀ e ∈ roster, ∃ name, e.1.Reads name

theorem Readable.tail {e : Scalar × Service} {roster : Roster} (h : Readable (e :: roster)) :
    Readable roster :=
  fun f hf => h f (List.mem_cons_of_mem e hf)

/-- The key in front of such a roster is compared by being equal. -/
theorem Readable.head_same {e : Scalar × Service} {roster : Roster} (h : Readable (e :: roster))
    (key : Scalar) : e.1.same key = decide (e.1 = key) := by
  obtain ⟨name, hname⟩ := h e List.mem_cons_self
  exact Scalar.same_of_reads hname key

/-- A service that is found under a key stands there. -/
theorem mem_of_service? {roster : Roster} (hroster : roster.Readable) {key : Scalar}
    {service : Service} (h : roster.service? key = some service) : (key, service) ∈ roster := by
  rw [service?, Option.map_eq_some_iff] at h
  obtain ⟨⟨k, s⟩, hfind, rfl⟩ := h
  have hmem := List.mem_of_find?_eq_some hfind
  obtain ⟨name, hname⟩ := hroster _ hmem
  have hsame := List.find?_some hfind
  rw [Scalar.same_of_reads hname, decide_eq_true_eq] at hsame
  rw [← hsame]
  exact hmem

/-- Where none is found there is no such key. -/
theorem not_mem_of_service? {roster : Roster} (hroster : roster.Readable) {key : Scalar}
    (h : roster.service? key = none) : key ∉ roster.map (·.1) := by
  rw [service?, Option.map_eq_none_iff, List.find?_eq_none] at h
  intro hmem
  obtain ⟨e, he, rfl⟩ := List.mem_map.1 hmem
  obtain ⟨name, hname⟩ := hroster e he
  refine h e he ?_
  rw [Scalar.same_of_reads hname, decide_eq_true_eq]

/-- A service is put in the place of the one under its key, or at the end. -/
theorem map_fst_put {roster : Roster} (hroster : roster.Readable) (key : Scalar)
    (service : Service) :
    (roster.put key service).map (·.1) =
      if key ∈ roster.map (·.1) then roster.map (·.1) else roster.map (·.1) ++ [key] := by
  induction roster with
  | nil => rfl
  | cons e rest ih =>
    rw [put, hroster.head_same]
    -- the service goes to the front entry, or further back
    by_cases hkey : e.1 = key
    · rw [if_pos (decide_eq_true hkey), if_pos (by rw [← hkey]; exact List.mem_cons_self)]
      rfl
    · rw [if_neg (by rw [decide_eq_true_eq]; exact hkey), List.map_cons, ih hroster.tail,
        List.map_cons]
      by_cases hmem : key ∈ rest.map (·.1)
      · rw [if_pos hmem, if_pos (List.mem_cons_of_mem _ hmem)]
      · rw [if_neg hmem, if_neg (List.not_mem_cons_of_ne_of_not_mem (Ne.symm hkey) hmem)]
        rfl

/-- What stands under other keys stays as it is. The keys have to be different for that, since
only the first service under a key is replaced. -/
theorem mem_put {roster : Roster} (hroster : roster.Readable) (hnodup : (roster.map (·.1)).Nodup)
    {key : Scalar} {service : Service} {e : Scalar × Service} (h : e ∈ roster.put key service) :
    e = (key, service) ∨ e ∈ roster ∧ e.1 ≠ key := by
  induction roster with
  | nil => exact .inl (List.mem_singleton.1 h)
  | cons f rest ih =>
    rw [List.map_cons, List.nodup_cons] at hnodup
    rw [put, hroster.head_same] at h
    by_cases hkey : f.1 = key
    · rw [if_pos (decide_eq_true hkey)] at h
      rcases List.mem_cons.1 h with rfl | hrest
      · exact .inl (by rw [hkey])
      · refine .inr ⟨List.mem_cons_of_mem f hrest, fun he => hnodup.1 ?_⟩
        rw [hkey, ← he]
        exact List.mem_map_of_mem hrest
    · rw [if_neg (by rw [decide_eq_true_eq]; exact hkey)] at h
      rcases List.mem_cons.1 h with rfl | hrest
      · exact .inr ⟨List.mem_cons_self, hkey⟩
      · rcases ih hroster.tail hnodup.2 hrest with he | ⟨he, hne⟩
        · exact .inl he
        · exact .inr ⟨List.mem_cons_of_mem f he, hne⟩

end Roster

/-! ## What an operation is filed under -/

namespace Operation

/-- The first tag of an operation; null, if it has none. -/
def firstTag (op : Operation) : Value :=
  match op.node.field "tags" with
  | .ok tags =>
    if tags.truthy then
      match tags.first with
      | .ok tag => tag
      | .error _ => .null
    else .null
  | .error _ => .null

/-- What an operation is filed under: its first tag if that counts as present, else the service that
the caller names, else the default. -/
def key (o : Options) (op : Operation) : Scalar :=
  match op.firstTag.orElse (o.serviceName.orElse (.str defaultServiceName)) with
  | .scalar key => key
  | _ => .null

/-- What an operation is filed under is its first tag, or what the caller says, or the default,
whenever it can be told at all. -/
theorem serviceTag_eq {o : Options} {op : Operation} {tag : Value}
    (h : serviceTag o op.node = .ok tag) :
    tag = op.firstTag.orElse (o.serviceName.orElse (.str defaultServiceName)) := by
  rw [serviceTag] at h
  obtain ⟨tags, htags, h⟩ := bind_eq_ok_iff.1 h
  rw [firstTag, htags]
  -- the first tag is asked for only if there are tags
  by_cases hpresent : tags.truthy = true
  · simp only [if_pos hpresent] at h ⊢
    obtain ⟨tag, htag, h⟩ := bind_eq_ok_iff.1 h
    rw [htag]
    exact (Except.ok.inj h).symm
  · simp only [if_neg hpresent] at h ⊢
    rw [← Except.ok.inj h, Value.orElse, if_neg hpresent]
    rfl

end Operation

/-- A value that can be looked for is a scalar, which is looked for as it is, or something that is
looked for as null. -/
theorem asKey_eq_ok {v : Value} {filed : Option Scalar} (h : v.asKey = .ok filed) :
    (∃ k, v = .scalar k ∧ filed = some k) ∨ (filed = none ∧ ∀ k, v ≠ .scalar k) := by
  unfold Value.asKey at h
  split at h
  · exact .inl ⟨_, rfl, (Except.ok.inj h).symm⟩
  · next hrow =>
    split at h
    · exact .inr ⟨(Except.ok.inj h).symm, hrow⟩
    · exact nomatch h

/-- Only scalars read as texts. -/
theorem eq_scalar_of_text {v : Value} {name : String} (h : Mismatch.text v = .ok name) :
    ∃ k, v = .scalar k := by
  cases v with
  | scalar k => exact ⟨k, rfl⟩
  | _ => exact nomatch h

/-- A service is opened under a tag that reads as a text, which is then its name. -/
theorem newService_eq_ok {version : Option String} {tag : Value} {service : Service}
    (h : newService version tag = .ok service) :
    Mismatch.text tag = .ok service.name ∧ service.serviceName = service.name ∧
      service.version = version ∧ service.methods = [] := by
  obtain ⟨hproblems, rfl⟩ := Reading.record_eq_ok_iff.1 h
  obtain ⟨hname, hserviceName⟩ := List.append_eq_nil_iff.1 hproblems
  have htext := Reading.text_of_no_problems hname
  have hsame := (Reading.text_of_no_problems hserviceName).symm.trans htext
  exact ⟨htext, Except.ok.inj hsame, rfl, rfl⟩

/-- Where an operation is filed: under its tag, which reads as a text, with a service that is there
already or a new one. -/
theorem serviceOf_eq_ok {o : Options} {version : Option String} {roster : Roster} {op : Operation}
    {key : Scalar} {service : Service} (hroster : roster.Readable)
    (h : serviceOf o version roster op.node = .ok (key, service)) :
    key = op.key o ∧ serviceTag o op.node = .ok (.scalar key) ∧
      ((key, service) ∈ roster ∨
        key ∉ roster.map (·.1) ∧ newService version (.scalar key) = .ok service) := by
  simp only [serviceOf, bind_eq_ok_iff] at h
  obtain ⟨tag, htag, filed, hfiled, h⟩ := h
  have hkey := Operation.serviceTag_eq htag
  rcases asKey_eq_ok hfiled with ⟨k, rfl, rfl⟩ | ⟨rfl, hrow⟩
  · rw [Option.getD_some] at h
    have hk : k = op.key o := by rw [Operation.key, ← hkey]
    cases hfound : roster.service? k with
    | some found =>
      rw [hfound] at h
      obtain ⟨rfl, rfl⟩ := Prod.mk.inj (Except.ok.inj h)
      exact ⟨hk, htag, .inl (Roster.mem_of_service? hroster hfound)⟩
    | none =>
      rw [hfound] at h
      obtain ⟨new, hnew, h⟩ := bind_eq_ok_iff.1 h
      obtain ⟨rfl, rfl⟩ := Prod.mk.inj (Except.ok.inj h)
      exact ⟨hk, htag, .inr ⟨Roster.not_mem_of_service? hroster hfound, hnew⟩⟩
  · -- a row is looked for under null, where nothing ever is, and it is no name for a service
    rw [Option.getD_none] at h
    cases hfound : roster.service? .null with
    | some found =>
      obtain ⟨name, hname⟩ := hroster _ (Roster.mem_of_service? hroster hfound)
      cases hname
    | none =>
      rw [hfound] at h
      obtain ⟨new, hnew, _⟩ := bind_eq_ok_iff.1 h
      obtain ⟨k, hk⟩ := eq_scalar_of_text (newService_eq_ok hnew).1
      exact absurd hk (hrow k)

/-! ## The invariant -/

section Invariant

variable (d : Dialect) (spec : Value.Entries) (o : Options) (version : Option String)

/-- What a service is that operations were filed in under a key: it has a name that the key reads
as, and for each operation a method, which is what the operation says but for the name. The names
are those that the operations get when they ask in turn. -/
structure Holds (key : Scalar) (ops : List Operation) (service : Service) : Prop where
  name : key.Reads service.name
  serviceName : service.serviceName = service.name
  version : service.version = version
  methods : List.Forall₂
    (fun op m => ∃ unnamed, op.unnamed d spec o = .ok unnamed ∧ m = unnamed.renamed m.methodName)
    ops service.methods
  names : ∃ bases, List.Forall₂ (fun op base => op.base d service = .ok base) ops bases ∧
    service.methodNames = Name.inTurn bases

/-- What a roster is after some operations: a service for each of their keys, in the order in which
the keys first come up, made of the operations with that key. -/
structure Files (ops : List Operation) (roster : Roster) : Prop where
  keys : roster.map (·.1) = (ops.map (·.key o)).eraseDups
  filed : ∀ op ∈ ops, serviceTag o op.node = .ok (.scalar (op.key o))
  holds : ∀ e ∈ roster, Holds d spec o version e.1 (ops.filter (·.key o = e.1)) e.2

variable {d spec o version}

/-- The services of a grouping stand under keys that read as texts, namely as their names. -/
theorem Files.readable {ops : List Operation} {roster : Roster}
    (h : Files d spec o version ops roster) : roster.Readable :=
  fun e he => ⟨_, (h.holds e he).name⟩

/-- The identifier that an operation gets in a service depends on what the service is called, and
on nothing else in it. -/
theorem Operation.base_congr {d : Dialect} {service other : Service} (h : service.name = other.name)
    (op : Operation) : op.base d service = op.base d other := by
  rw [Operation.base, Operation.base]
  simp only [nameOf, withoutService, h]

/-- A new service is what no operations make of it. -/
theorem Holds.new {key : Scalar} {service : Service}
    (h : newService version (.scalar key) = .ok service) :
    Holds d spec o version key [] service := by
  obtain ⟨hname, hserviceName, hversion, hmethods⟩ := newService_eq_ok h
  refine ⟨hname, hserviceName, hversion, ?_, [], List.Forall₂.nil, ?_⟩
  · rw [hmethods]
    exact List.Forall₂.nil
  · rw [Service.methodNames, hmethods]
    rfl

/-- One more operation in a service. Its method stands behind the others, and its name is the
first one for its base that none of them has. -/
theorem Holds.add {key : Scalar} {ops : List Operation} {service : Service}
    (h : Holds d spec o version key ops service) {op : Operation} {base : String}
    {unnamed : Method} (hbase : op.base d service = .ok base)
    (hunnamed : op.unnamed d spec o = .ok unnamed) :
    Holds d spec o version key (ops ++ [op])
      (withMethod service (unnamed.renamed (Name.freeAmong service.methodNames base))) := by
  obtain ⟨bases, hbases, hnames⟩ := h.names
  refine ⟨h.name, h.serviceName, h.version, ?_, bases ++ [base], ?_, ?_⟩
  · exact List.rel_append h.methods (.cons ⟨unnamed, hunnamed, rfl⟩ .nil)
  · refine List.rel_append (hbases.imp fun op b hb => ?_) (.cons ?_ .nil)
    · rw [← hb]
      exact Operation.base_congr rfl op
    · rw [← hbase]
      exact Operation.base_congr rfl op
  · rw [Name.inTurn_append_singleton, ← hnames, Service.methodNames, withMethod, List.map_append]
    rfl

/-- The empty roster is the grouping of no operations. -/
theorem files_nil : Files d spec o version [] [] :=
  ⟨rfl, fun _ h => absurd h List.not_mem_nil, fun _ h => absurd h List.not_mem_nil⟩

/-- **One operation keeps the roster a grouping.** Its service is there already, or it is new and
has no operations yet. In both cases it held what was filed under its key before, and now holds
one more, while the others are left as they were. -/
theorem Files.add {ops : List Operation} {roster roster' : Roster} {op : Operation}
    (h : Files d spec o version ops roster)
    (hadd : roster.add d spec o version op = .ok roster') :
    Files d spec o version (ops ++ [op]) roster' := by
  simp only [Roster.add, bind_eq_ok_iff] at hadd
  obtain ⟨⟨key, service⟩, hfiled, base, hbase, unnamed, hunnamed, hadd⟩ := hadd
  obtain ⟨rfl, htag, hservice⟩ := serviceOf_eq_ok h.readable hfiled
  have hnodup : (roster.map (·.1)).Nodup := by
    rw [h.keys]
    exact nodup_eraseDups _
  -- before the operation the service is what the operations filed there make of it
  have hbefore : Holds d spec o version (op.key o) (ops.filter (·.key o = op.key o)) service := by
    rcases hservice with hmem | ⟨hfresh, hnew⟩
    · exact h.holds _ hmem
    · rw [h.keys, List.mem_eraseDups] at hfresh
      have hnone : ops.filter (·.key o = op.key o) = [] := by
        rw [List.filter_eq_nil_iff]
        intro other hother hkey
        refine hfresh (List.mem_map.2 ⟨other, hother, ?_⟩)
        exact of_decide_eq_true hkey
      rw [hnone]
      exact Holds.new hnew
  rw [← Except.ok.inj hadd]
  -- the keys, what operations are filed under, and what the services hold
  constructor
  · rw [Roster.map_fst_put h.readable, h.keys, List.map_append, List.map_singleton,
      eraseDups_append_singleton]
  · intro other hother
    rcases List.mem_append.1 hother with hother | hother
    · exact h.filed other hother
    · rw [List.mem_singleton.1 hother]
      exact htag
  · intro e he
    rcases Roster.mem_put h.readable hnodup he with rfl | ⟨he, hne⟩
    · rw [List.filter_append, List.filter_singleton, decide_eq_true rfl]
      exact hbefore.add hbase hunnamed
    · rw [List.filter_append, List.filter_singleton, decide_eq_false (Ne.symm hne)]
      have := h.holds e he
      rw [← List.append_nil (ops.filter _)] at this
      exact this

/-- **After a run the roster is the grouping of all operations.** -/
theorem files_of_foldlM {ops : List Operation} {roster : Roster}
    (h : ops.foldlM (Roster.add d spec o version) [] = .ok roster) :
    Files d spec o version ops roster := by
  -- by induction on the run from its end: the last operation is added to what the others have
  -- left
  induction ops using List.reverseRecOn generalizing roster with
  | nil =>
    rw [← Except.ok.inj h]
    exact files_nil
  | append_singleton ops op ih =>
    rw [List.foldlM_append] at h
    obtain ⟨before, hbefore, h⟩ := bind_eq_ok_iff.1 h
    rw [List.foldlM_cons] at h
    obtain ⟨after, hafter, h⟩ := bind_eq_ok_iff.1 h
    obtain rfl := Except.ok.inj h
    exact (ih hbefore).add hafter

end Invariant

end Decoding

end ApiOutline
