/-
References that are refused instead of passed over.

A caller may want that a reference that leads nowhere is refused, and not passed over with a
warning. Then decoding goes the same way up to the first such reference and ends there, and if there
is none it goes the same way to its end.

A run that passed over references tells so in its notices, so the other run can be had from it by
cutting it off at the first of these notices (`Trace.strict`). Cutting off is compatible with doing
one thing after another: what is behind the cut is never reached, and if there is no cut the next
run is cut by itself (`strict_bind`). So it is enough to compare the two where they part, at one
reference, and the comparison is carried upwards through each function that calls another
(`strict_decode`).
-/
import ApiOutline.Proofs.Refusals

set_option autoImplicit false

namespace ApiOutline

/-- Does a notice say that a reference was passed over? -/
def Notice.isSkip : Notice → Bool
  | .skipped .. => true
  | _ => false

namespace Trace

variable {α β : Type}

/-! ## Cutting off -/

/-- The run with these notices and this outcome, if no reference is passed over. At the first one
that is, it is refused. -/
def cut : List Notice → Except Fault α → Trace α
  | [], outcome => lift outcome
  | .skipped target place :: _, _ =>
    fail (.refused (.unresolvedReference (.str target) (.str place)))
  | n :: rest, outcome => do
    tell n
    cut rest outcome

/-- A run that is refused at the first reference that it would have passed over. -/
def strict (x : Trace α) : Trace α :=
  cut x.notices x.outcome

/-- A notice that is told is told before everything else. -/
theorem mk_cons (n : Notice) (ns : List Notice) (outcome : Except Fault α) :
    (⟨n :: ns, outcome⟩ : Trace α) = tell n >>= fun _ => ⟨ns, outcome⟩ := rfl

/-- A notice that is not about a passed-over reference stays, and the rest of the run is cut
behind it. -/
theorem cut_cons {n : Notice} (h : n.isSkip = false) (ns : List Notice)
    (outcome : Except Fault α) : cut (n :: ns) outcome = tell n >>= fun _ => cut ns outcome := by
  cases n with
  | skipped => exact nomatch h
  | _ => rfl

/-- Nothing is told and nothing fails, so there is nothing at which a strict run could stop. -/
@[simp] theorem strict_pure (a : α) : (pure a : Trace α).strict = pure a := rfl

@[simp] theorem strict_liftM (r : Except Fault α) : (liftM r : Trace α).strict = liftM r := rfl

@[simp] theorem strict_lift (r : Except Fault α) : (lift r).strict = lift r := rfl

/-- Telling something else than a passed-over reference is not cut. -/
theorem strict_tell {n : Notice} (h : n.isSkip = false) : (tell n).strict = tell n :=
  cut_cons h [] (.ok ())

/-- What is told first stays in front of a run that is cut, unless it is the notice at which to
cut. -/
theorem strict_tell_bind {n : Notice} (h : n.isSkip = false) (x : Trace α) :
    (tell n >>= fun _ => x).strict = tell n >>= fun _ => x.strict :=
  cut_cons h x.notices x.outcome

/-- **One run after another is cut off by cutting off each of them.** If the first is cut off,
nothing of the second is reached. If it is not, the cut is in the second, behind all that the
first has told. -/
@[simp] theorem strict_bind (x : Trace α) (f : α → Trace β) :
    (x >>= f).strict = x.strict >>= fun a => (f a).strict := by
  obtain ⟨ns, outcome⟩ := x
  -- the induction is on what is told before the outcome, which is when the second run begins
  induction ns with
  | nil =>
    cases outcome with
    | error e => rfl
    | ok a => rfl
  | cons n ns ih =>
    -- behind the first passed-over reference nothing is reached, whatever the second run is
    by_cases hskip : n.isSkip = true
    · cases n with
      | skipped target place =>
        cases outcome with
        | error e => rfl
        | ok a => rfl
      | _ => exact nomatch hskip
    · -- the notice stays in front, and the rest is cut as before
      have htold := Bool.not_eq_true _ ▸ hskip
      rw [mk_cons, bind_assoc, strict_tell_bind htold, strict_tell_bind htold, ih, bind_assoc]

/-- A fold is cut by cutting each of its steps, since it is one step after another from whatever
the steps before have made. The induction is on the list, for any start. -/
@[simp] theorem strict_foldlM (f : β → α → Trace β) (b : β) (xs : List α) :
    (xs.foldlM f b).strict = xs.foldlM (fun b a => (f b a).strict) b := by
  induction xs generalizing b with
  | nil => rfl
  | cons x xs ih =>
    rw [List.foldlM_cons, List.foldlM_cons, strict_bind]
    simp only [ih]

/-- The same for a list of runs of which each result is kept. -/
@[simp] theorem strict_mapM (f : α → Trace β) (xs : List α) :
    (xs.mapM f).strict = xs.mapM fun a => (f a).strict := by
  induction xs with
  | nil => rfl
  | cons x xs ih =>
    rw [List.mapM_cons, List.mapM_cons, strict_bind]
    simp only [strict_bind, strict_pure, ih]

/-! ## What is left -/

/-- One run is the other up to the first reference that that one passes over, and is refused there.
If the other passes over none, the two are the same. -/
def StopsAtFirstSkip (x y : Trace α) : Prop :=
  ((∀ n ∈ y.notices, n.isSkip = false) ∧ x = y) ∨
    ∃ before target place after, y.notices = before ++ .skipped target place :: after ∧
      (∀ n ∈ before, n.isSkip = false) ∧
      x = ⟨before, .error (.refused (.unresolvedReference (.str target) (.str place)))⟩

/-- **Cutting off does what it is meant to.** By induction on the notices: those that stay come
before the first passed-over reference, and if there is none nothing has changed. -/
theorem strict_stopsAtFirstSkip (x : Trace α) : x.strict.StopsAtFirstSkip x := by
  obtain ⟨ns, outcome⟩ := x
  induction ns with
  | nil => exact .inl ⟨fun n hn => absurd hn List.not_mem_nil, rfl⟩
  | cons n ns ih =>
    by_cases hskip : n.isSkip = true
    · cases n with
      | skipped target place =>
        exact .inr ⟨[], target, place, ns, rfl, fun n hn => absurd hn List.not_mem_nil, rfl⟩
      | _ => exact nomatch hskip
    · have htold := Bool.not_eq_true _ ▸ hskip
      have hcut : (⟨n :: ns, outcome⟩ : Trace α).strict =
          tell n >>= fun _ => (⟨ns, outcome⟩ : Trace α).strict := cut_cons htold ns outcome
      rcases ih with ⟨hnone, hsame⟩ | ⟨before, target, place, after, hns, hbefore, hstopped⟩
      · refine .inl ⟨List.forall_mem_cons.2 ⟨htold, hnone⟩, ?_⟩
        rw [hcut, hsame]
        rfl
      · refine .inr ⟨n :: before, target, place, after, congrArg (n :: ·) hns,
          List.forall_mem_cons.2 ⟨htold, hbefore⟩, ?_⟩
        rw [hcut, hstopped]
        rfl

end Trace

/-- A refusal is for something else than a reference. -/
def Refusal.Unreferring (reason : Refusal) : Prop :=
  ∀ target place, reason ≠ .unresolvedReference target place

/-- Options that are the same but for one thing: one passes over references that lead nowhere, and
the other refuses them. -/
structure Options.Stricter (lenient strict : Options) : Prop where
  passesOver : lenient.strictRefs.truthy = false
  refuses : strict.strictRefs.truthy = true
  others : strict = { lenient with strictRefs := strict.strictRefs }

namespace Decoding

open Trace Outcome

/-! ## Where nothing is passed over -/

/-- Asking for a name tells at most that one was made, which is no reason to cut. -/
theorem strict_nameOf (d : Dialect) (own : String → String) (service : Service)
    (raw verb path : Value) :
    (nameOf d own service raw verb path).strict = nameOf d own service raw verb path := by
  rw [nameOf, strict_bind, strict_liftM]
  refine bind_congr fun stated => ?_
  split
  · simp only [strict_bind, strict_liftM, strict_pure]
  -- the name is made from verb and path, and that is told
  · rw [strict_bind, strict_liftM]
    refine bind_congr fun name => ?_
    exact strict_tell_bind rfl (pure name)

/-- Giving a method its name tells at most that the name was taken. So a service is filled the
same way by either run. -/
theorem strict_register (service : Service) (name : Value) :
    (register service name).strict = register service name := by
  rw [register, strict_bind, strict_liftM]
  refine bind_congr fun identifier => ?_
  dsimp only
  split
  -- the name is taken already, and that is told
  · exact strict_tell_bind rfl (pure _)
  · rfl

/-- The choice of a decoder follows no reference. It tells which decoder it is, behind the ones
that were asked in vain. -/
theorem strict_select (spec : Value) : (select spec).strict = select spec := by
  have hamong : ∀ ds, (selectAmong spec ds).strict = selectAmong spec ds := by
    intro ds
    induction ds with
    | nil => rfl
    | cons d rest ih =>
      rw [selectAmong, strict_bind, strict_liftM]
      refine bind_congr fun accepted => ?_
      split
      · exact strict_tell_bind rfl (pure d)
      · exact ih
  exact hamong [.listing, .paths]

/-! ## Where references are followed -/

section Stricter

variable {lenient strict : Options} (h : lenient.Stricter strict)

include h

/-- **At one reference the two runs part**: one tells that it leads nowhere and goes on without
it, the other is refused with the same target and place. A reference that leads somewhere is
followed by both. -/
theorem strict_resolve (spec : Value.Entries) (target place : String) :
    (resolve spec lenient target place).strict = resolve spec strict target place := by
  rw [resolve, resolve, strict_bind, strict_liftM]
  refine bind_congr fun shared => ?_
  split
  · -- this is where the two part
    rw [if_neg (by rw [h.passesOver]; exact Bool.false_ne_true), if_pos h.refuses]
    rfl
  · rfl

/-- Which nodes are left out depends on another option. -/
theorem isLeftOut_stricter (node : Value) : isLeftOut strict node = isLeftOut lenient node := by
  rw [h.others]
  rfl

/-- The parameter of a node comes from `strict_resolve` if the node refers to something. Otherwise
nothing is told and nothing cut. -/
theorem strict_pathsParameter (spec : Value.Entries) (place : String) (node : Value) :
    (pathsParameter spec lenient place node).strict = pathsParameter spec strict place node := by
  rw [pathsParameter, pathsParameter, strict_bind, strict_liftM, isLeftOut_stricter h]
  refine bind_congr fun leftOut => ?_
  split
  · rfl
  · rw [strict_bind, strict_liftM]
    refine bind_congr fun reference => ?_
    split
    · rw [strict_bind, strict_resolve h]
      refine bind_congr fun found => ?_
      cases found with
      | none => rfl
      | some shared => simp only [strict_bind, strict_liftM, strict_pure]
    · simp only [strict_bind, strict_liftM, strict_pure]

/-- The service of an operation depends on other options. -/
theorem serviceOf_stricter (version : Option String) (roster : Roster) (node : Value) :
    serviceOf strict version roster node = serviceOf lenient version roster node := by
  rw [h.others]
  rfl

/-- One operation is its service, its record, its parameters and its name, one after the other. Of
these only the parameters follow references. -/
theorem strict_pathsOperation (spec : Value.Entries) (version : Option String) (path : Scalar)
    (shared : Value) (verb : String) (roster : Roster) (node : Value) :
    (pathsOperation spec lenient version path shared verb roster node).strict =
      pathsOperation spec strict version path shared verb roster node := by
  simp only [pathsOperation, strict_bind, strict_liftM, strict_pure, strict_mapM, strict_nameOf,
    strict_register, strict_pathsParameter h, serviceOf_stricter h]

/-- All operations of a path, in the order of the keys. The same keys are verbs in either run. -/
theorem strict_pathsItem (spec : Value.Entries) (version : Option String) (roster : Roster)
    (entry : Scalar × Value) :
    (pathsItem spec lenient version roster entry).strict =
      pathsItem spec strict version roster entry := by
  obtain ⟨path, item⟩ := entry
  simp only [pathsItem, strict_bind, strict_liftM, strict_foldlM]
  refine bind_congr fun item => bind_congr fun shared => ?_
  -- only the step of the fold is left to compare
  congr 1
  funext roster e
  refine bind_congr fun verb => ?_
  cases verb with
  | none => rfl
  | some verb => exact strict_pathsOperation h ..

/-- A whole description by paths. Its head and its models are the same in both runs, as neither
depends on how references are taken. -/
theorem strict_decodePaths (spec : Value.Entries) :
    (decodePaths spec lenient).strict = decodePaths spec strict := by
  -- neither the head nor the record of the whole looks at the option
  have hhead : pathsHead spec strict = pathsHead spec lenient := by
    rw [h.others]
    rfl
  have hsummary : ∀ head : Head, head.summary strict = head.summary lenient := by
    intro head
    rw [h.others]
    rfl
  have htold : ∀ count, (Trace.tell (.started .paths count)).strict =
      Trace.tell (.started .paths count) :=
    fun count => strict_tell rfl
  simp only [decodePaths, strict_bind, strict_liftM, strict_pure, strict_foldlM, hhead, hsummary,
    strict_pathsItem h, htold]

/-- An operation of a listing refers to nothing, so it is the same in both runs. Its notices are
never cut. -/
theorem strict_listingOperation (spec : Value.Entries) (isSecure : Bool) (path : Value)
    (roster : Roster) (node : Value) :
    (listingOperation spec lenient isSecure path roster node).strict =
      listingOperation spec strict isSecure path roster node := by
  simp only [listingOperation, strict_bind, strict_liftM, strict_pure, strict_mapM, strict_nameOf,
    strict_register, strict_lift, serviceOf_stricter h]

/-- One resource of a listing, whose operations come one after the other. -/
theorem strict_listingResource (spec : Value.Entries) (isSecure : Bool) (roster : Roster)
    (resource : Value) :
    (listingResource spec lenient isSecure roster resource).strict =
      listingResource spec strict isSecure roster resource := by
  simp only [listingResource, strict_bind, strict_liftM, strict_foldlM, strict_listingOperation h]

/-- A whole listing, which comes out the same whatever is wanted for references. -/
theorem strict_decodeListing (spec : Value.Entries) :
    (decodeListing spec lenient).strict = decodeListing spec strict := by
  have hsummary : ∀ head : Head, head.summary strict = head.summary lenient := by
    intro head
    rw [h.others]
    rfl
  have htold : ∀ count, (Trace.tell (.started .listing count)).strict =
      Trace.tell (.started .listing count) :=
    fun count => strict_tell rfl
  simp only [decodeListing, strict_bind, strict_liftM, strict_pure, strict_foldlM, hsummary,
    strict_listingResource h, htold]

end Stricter

end Decoding

open Decoding Trace

/-- The run that refuses references is the run that passes over them, cut off at the first one. -/
theorem strict_decode {lenient strict : Options} (h : lenient.Stricter strict) (spec : Value) :
    (decode spec lenient).strict = decode spec strict := by
  rw [decode, decode, strict_bind, strict_select]
  refine bind_congr fun d => ?_
  rw [strict_bind, strict_liftM]
  refine bind_congr fun entries => ?_
  cases d with
  | listing => rw [decodeAs, decodeAs, strict_bind, strict_decodeListing h]; rfl
  | paths => rw [decodeAs, decodeAs, strict_bind, strict_decodePaths h]; rfl

/-- **Whoever wants references refused gets the same run up to the first one that leads nowhere,
and there the refusal.** What was told before it is the same, and the refusal names the reference
and the place that the other run warns of. Whoever does not want that is never refused for a
reference, and neither is a listing. -/
theorem decode_stricter (spec : Value) {lenient strict : Options} (h : lenient.Stricter strict) :
    (decode spec strict).StopsAtFirstSkip (decode spec lenient) ∧
      (∀ target place,
        (decode spec lenient).outcome ≠ .error (.refused (.unresolvedReference target place))) ∧
      ((select spec).outcome = .ok .listing → ∀ target place,
        (decode spec strict).outcome ≠ .error (.refused (.unresolvedReference target place))) := by
  have hversion : Refusal.Unreferring (.unsupportedVersion (refusedVersion spec)) :=
    fun _ _ h => nomatch h
  have hname : ∀ name, Refusal.Unreferring (.invalidMethodName name) := fun _ _ _ h => nomatch h
  -- the first part is the cut, and the other two ask what kind of refusal there can be at all
  refine ⟨?_, ?_, ?_⟩
  · rw [← strict_decode h]
    exact strict_stopsAtFirstSkip _
  · intro target place hrefused
    have hunreferring : RefusedFor Refusal.Unreferring (decode spec lenient).outcome := by
      refine refusedFor_decode hversion hname fun _ hstrict => ?_
      rw [h.passesOver] at hstrict
      exact nomatch hstrict
    exact hunreferring _ hrefused target place rfl
  · intro hlisting target place hrefused
    have hunreferring : RefusedFor Refusal.Unreferring (decode spec strict).outcome :=
      refusedFor_decode hversion hname fun hpaths _ => nomatch hlisting.symm.trans hpaths
    exact hunreferring _ hrefused target place rfl

/-- An operation whose only parameter is a reference to nothing. -/
def lostReference : Value :=
  .ofFields [("swagger", .str "2.0"), ("info", .object []), ("paths", .ofFields [
    ("/books", .ofFields [("get", .ofFields [
      ("operationId", .str "fetch"),
      ("parameters", .list [.ofFields [("$ref", .str "#/parameters/gone")]])])])])]

/-- The two runs do part: a description with a reference to nothing gets a warning from one and
the refusal from the other. -/
theorem decode_stricter_lostReference :
    Options.Stricter {} { strictRefs := .bool true } ∧
      .skipped "#/parameters/gone" "GET /books" ∈ (decode lostReference {}).notices ∧
      (decode lostReference { strictRefs := .bool true }).StopsAtFirstSkip
        (decode lostReference {}) := by
  have hstricter : Options.Stricter {} { strictRefs := .bool true } := ⟨rfl, rfl, rfl⟩
  refine ⟨hstricter, by decide +kernel, ?_⟩
  exact (decode_stricter lostReference hstricter).1

end ApiOutline
