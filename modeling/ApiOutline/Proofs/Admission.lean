/-
Which operations can be filed.

An operation is filed or refused on its own account. Its tag has to read as a text, so that there is
or can be a service of that name; what it calls itself, or its verb and path, have to make an
identifier in a service of that name; and what else it says has to make a method. None of this
depends on what has been filed before (`Admissible`). The names that are taken only decide which
number goes behind the identifier, and there is always one left.

So a run succeeds just if every operation can be filed (`foldlM_add_iff`), and whether it does is
a question about the operations as a set.
-/
import ApiOutline.Proofs.Services

set_option autoImplicit false

namespace ApiOutline.Decoding

open Outcome

section Admission

variable (d : Dialect) (spec : Value.Entries) (o : Options)

/-- An operation that can be filed, whatever has been filed before. -/
structure Admissible (op : Operation) : Prop where
  filed : serviceTag o op.node = .ok (.scalar (op.key o))
  named : ∃ name, (op.key o).Reads name ∧
    ∀ service : Service, service.name = name → ∃ base, op.base d service = .ok base
  stated : ∃ unnamed, op.unnamed d spec o = .ok unnamed

variable {d spec o} {version : Option String}

/-! ## One operation -/

/-- A tag that reads as a text opens a service of that name. -/
theorem newService_of_reads {key : Scalar} {name : String} (h : key.Reads name) :
    newService version (.scalar key) =
      .ok { name := name, serviceName := name, version := version } := by
  have htext : Mismatch.text (.scalar key) = .ok name := h
  simp only [newService, Reading.text, htext]
  rfl

/-- The service of an operation that can be filed has the name that its key reads as, whether it is
there already or new. -/
theorem serviceOf_of_files {ops : List Operation} {roster : Roster}
    (h : Files d spec o version ops roster) {op : Operation} {name : String}
    (hfiled : serviceTag o op.node = .ok (.scalar (op.key o))) (hname : (op.key o).Reads name) :
    ∃ service, serviceOf o version roster op.node = .ok (op.key o, service) ∧
      service.name = name := by
  rw [serviceOf, hfiled, ok_bind]
  simp only [Value.asKey, ok_bind, Option.getD_some]
  cases hfound : roster.service? (op.key o) with
  | some service =>
    have hmem := Roster.mem_of_service? h.readable hfound
    have hreads : (op.key o).Reads service.name := (h.holds _ hmem).name
    exact ⟨service, rfl, Except.ok.inj (hreads.symm.trans hname)⟩
  | none =>
    refine ⟨{ name := name, serviceName := name, version := version }, ?_, rfl⟩
    rw [newService_of_reads hname]
    rfl

/-- An operation that can be filed is filed, whatever was filed before it. The service that it
meets has the name for which the conditions were asked. -/
theorem add_of_admissible {ops : List Operation} {roster : Roster}
    (h : Files d spec o version ops roster) {op : Operation} (hop : Admissible d spec o op) :
    ∃ roster', roster.add d spec o version op = .ok roster' := by
  obtain ⟨name, hname, hnamed⟩ := hop.named
  obtain ⟨service, hservice, hcalled⟩ := serviceOf_of_files h hop.filed hname
  obtain ⟨base, hbase⟩ := hnamed service hcalled
  obtain ⟨unnamed, hunnamed⟩ := hop.stated
  let method := unnamed.renamed (Name.freeAmong service.methodNames base)
  refine ⟨roster.put (op.key o) (withMethod service method), ?_⟩
  rw [Roster.add, hservice, ok_bind, hbase, ok_bind, hunnamed]
  rfl

/-! ## All of them -/

/-- What has been filed could be filed. -/
theorem admissible_of_files {ops : List Operation} {roster : Roster}
    (h : Files d spec o version ops roster) {op : Operation} (hop : op ∈ ops) :
    Admissible d spec o op := by
  obtain ⟨e, he, hkey⟩ := h.mem_keys_iff.2 ⟨op, hop, rfl⟩
  have hholds := h.holds e he
  have hmem : op ∈ ops.filter (·.key o = e.1) :=
    List.mem_filter.2 ⟨hop, decide_eq_true hkey.symm⟩
  obtain ⟨_, _, unnamed, hunnamed, _⟩ := exists_of_forall₂ hholds.methods hmem
  obtain ⟨bases, hbases, _⟩ := hholds.names
  obtain ⟨base, _, hbase⟩ := exists_of_forall₂ hbases hmem
  refine ⟨h.filed op hop, ⟨e.2.name, ?_, fun service hname => ⟨base, ?_⟩⟩, unnamed, hunnamed⟩
  · rw [← hkey]
    exact hholds.name
  · rw [Operation.base_congr hname, hbase]

/-- **A run succeeds just if every operation can be filed.** Nothing is asked of an operation that
depends on those before it, because the service that it meets has the name that its key reads as,
whichever operation made it. -/
theorem foldlM_add_iff {ops : List Operation} :
    (∃ roster, ops.foldlM (Roster.add d spec o version) [] = .ok roster) ↔
      ∀ op ∈ ops, Admissible d spec o op := by
  constructor
  · rintro ⟨roster, hroster⟩ op hop
    exact admissible_of_files (files_of_foldlM hroster) hop
  · intro hall
    induction ops using List.reverseRecOn with
    | nil => exact ⟨[], rfl⟩
    | append_singleton ops op ih =>
      -- the last operation finds a roster of those before it, and that is all it needs
      obtain ⟨before, hbefore⟩ := ih fun other hother =>
        hall other (List.mem_append_left [op] hother)
      have hlast := hall op (List.mem_append_right ops List.mem_cons_self)
      obtain ⟨roster, hroster⟩ := add_of_admissible (files_of_foldlM hbefore) hlast
      refine ⟨roster, ?_⟩
      rw [List.foldlM_append, hbefore, ok_bind, List.foldlM_cons, hroster]
      rfl

end Admission

end ApiOutline.Decoding
