/-
Descriptions by paths that are decoded alike, path by path.

What becomes of an operation can be told from what is asked of it by name, other than for its
parameters, and from the parameters that come of its own nodes and those of its path taken together
(`Alike`). So two operations that differ in how their parameters are written, but have the same
parameters, do the same to every roster, and they fail alike. This goes up through the keys of a
path and through the paths, and two descriptions come to the same, whatever that is.

It is said of outcomes, failures included. The runs through what went well (`decode_eq_ok_iff`)
would not do, since nothing is known there about a description that cannot be decoded.
-/
import ApiOutline.Proofs.Frame

set_option autoImplicit false

namespace ApiOutline.Decoding

open Outcome Value

/-! ## One operation -/

section Operations

variable (spec : Value.Entries) (o : Options)

/-- The parameters of an operation, its own and those of its path. -/
def parametersOf (place : String) (operation : Value.Entries) (shared : Value) :
    Except Fault (List Parameter) := do
  let nodes ← parameterNodes operation shared
  let parameters ← nodes.mapM fun node => (pathsParameter spec o place node).outcome
  return parameters.filterMap id

theorem unnamedKeyed_eq (op : Operation) : op.unnamedKeyed spec o = (do
    let operation ← op.node.entries
    let operation : Value.Entries := operation
    let method ← Stated.method
      { path := op.path
        verb := op.verb
        summary := (operation.get "description").orElse (operation.get "summary")
        externalDocs := operation.get "externalDocs"
        isSecure := !(spec.get "security").isNull || !(operation.get "security").isNull } ""
    let media ← mediaOf spec operation
    let parameters ← parametersOf spec o (op.verb.text ++ " " ++ op.path.text) operation op.shared
    return withParameters (withMedia method media) parameters) := by
  simp only [Operation.unnamedKeyed, parametersOf, bind_assoc, pure_bind]

/-- Two operations that say the same, but for how they write their parameters. -/
structure Alike (op op' : Operation) : Prop where
  path : op.path = op'.path
  verb : op.verb = op'.verb
  entries : Both (AgreeBut "parameters") op.node.entries op'.node.entries
  parameters : ∀ a b place, op.node.entries = .ok a → op'.node.entries = .ok b →
    parametersOf spec o place a op.shared = parametersOf spec o place b op'.shared

variable {spec o} {op op' : Operation}

theorem Alike.field_eq (h : Alike spec o op op') {name : String} (hname : name ≠ "parameters") :
    op.node.field name = op'.node.field name := by
  rw [field_eq_map_entries, field_eq_map_entries]
  refine h.entries.bind_eq fun a b _ _ hagree => ?_
  exact congrArg Except.ok (hagree.get_eq hname)

theorem Alike.unnamedKeyed_eq (h : Alike spec o op op') :
    op.unnamedKeyed spec o = op'.unnamedKeyed spec o := by
  rw [Decoding.unnamedKeyed_eq, Decoding.unnamedKeyed_eq]
  refine h.entries.bind_eq fun a b ha hb hagree => ?_
  have hget : ∀ name, name ≠ "parameters" → a.get name = b.get name := fun _ => hagree.get_eq
  have hmedia : mediaOf spec a = mediaOf spec b := mediaOf_congr rfl rfl
    (hget "produces" (by decide)) (hget "consumes" (by decide))
  simp only [hget "description" (by decide), hget "summary" (by decide),
    hget "externalDocs" (by decide), hget "security" (by decide), hmedia, h.path, h.verb,
    h.parameters a b _ ha hb]

/-- **Operations that say the same do the same to every roster.** -/
theorem Alike.add_eq (h : Alike spec o op op') (version : Option String) (roster : Roster) :
    roster.add .paths spec o version op = roster.add .paths spec o version op' := by
  have hservice : serviceOf o version roster op.node = serviceOf o version roster op'.node := by
    have htags : op.node.field "tags" = op'.node.field "tags" := h.field_eq (by decide)
    simp only [serviceOf, serviceTag, htags]
  have hbase : ∀ service, op.base .paths service = op'.base .paths service := by
    have hname : op.node.field "operationId" = op'.node.field "operationId" :=
      h.field_eq (by decide)
    intro service
    simp only [Operation.base, Dialect.nameField, hname, h.path, h.verb]
  have hunnamed : op.unnamed .paths spec o = op'.unnamed .paths spec o := h.unnamedKeyed_eq
  simp only [Roster.add, hservice, hbase, hunnamed]

end Operations

/-! ## One path -/

section Items

variable {spec : Value.Entries} {o : Options} {path : Scalar}

/-- What one key of a path does to a roster: if it is a verb, what the operation under it does. -/
def entryStep (spec : Value.Entries) (o : Options) (version : Option String) (path : Scalar)
    (shared : Value) (roster : Roster) (e : Scalar × Value) : Except Fault Roster := do
  match ← verbOf e.1 with
  | none => return roster
  | some verb => roster.add .paths spec o version ⟨.scalar path, .str verb, shared, e.2⟩

/-- A path is walked through key by key, once it is known what it states for all of its
operations. -/
theorem pathsItem_outcome_foldlM (version : Option String) (roster : Roster) (item : Value) :
    (pathsItem spec o version roster (path, item)).outcome = (do
      let item ← item.entries
      let shared ← sharedParameters item
      item.foldlM (entryStep spec o version path shared) roster) := by
  simp only [pathsItem, Trace.outcome_bind, Trace.outcome_liftM, Trace.outcome_foldlM]
  refine bind_congr fun item => bind_congr fun shared => ?_
  refine foldlM_eq_of_forall₂ (List.forall₂_same.2 fun e _ roster => ?_) roster
  refine bind_congr fun verb => ?_
  cases verb with
  | none => rfl
  | some verb => exact pathsOperation_outcome ..

/-- Two entries of a path under one key. If the key is a verb they are alike as operations. -/
def EntryAlike (spec : Value.Entries) (o : Options) (path : Scalar) (shared shared' : Value)
    (e f : Scalar × Value) : Prop :=
  e.1 = f.1 ∧ ∀ verb, verbOf e.1 = .ok (some verb) →
    Alike spec o ⟨.scalar path, .str verb, shared, e.2⟩ ⟨.scalar path, .str verb, shared', f.2⟩

/-- Entries that are alike do the same to every roster. Only entries at verbs do anything, and
there the operations are alike. -/
theorem EntryAlike.entryStep_eq {shared shared' : Value} {e f : Scalar × Value}
    (h : EntryAlike spec o path shared shared' e f) (version : Option String) (roster : Roster) :
    entryStep spec o version path shared roster e =
      entryStep spec o version path shared' roster f := by
  obtain ⟨hkey, halike⟩ := h
  rw [entryStep, entryStep, ← hkey]
  -- a key that is no verb leaves the roster as it is, whatever stands under it
  refine bind_congr_ok fun verb hverb => ?_
  cases verb with
  | none => rfl
  | some verb => exact (halike verb hverb).add_eq version roster

/-- Two forms of a path are walked through alike if their entries are alike. -/
theorem pathsItem_outcome_eq {R : Value → Value → Prop} {item item' : Value}
    {es fs : Value.Entries} (hes : item.entries = .ok es) (hfs : item'.entries = .ok fs)
    (hshared : Both R (sharedParameters es) (sharedParameters fs))
    (h : ∀ shared shared', R shared shared' →
      List.Forall₂ (EntryAlike spec o path shared shared') es fs)
    (version : Option String) (roster : Roster) :
    (pathsItem spec o version roster (path, item)).outcome =
      (pathsItem spec o version roster (path, item')).outcome := by
  rw [pathsItem_outcome_foldlM, pathsItem_outcome_foldlM, hes, hfs, ok_bind, ok_bind]
  refine hshared.bind_eq fun shared shared' _ _ hR => ?_
  exact foldlM_eq_of_forall₂
    ((h shared shared' hR).imp fun e f hef roster => hef.entryStep_eq version roster) roster

/-- What one path does to a roster can be told without the other paths. -/
theorem pathsItem_congr {a b : Value.Entries} (h : AgreeBut "paths" a b) (o : Options)
    (version : Option String) (roster : Roster) (entry : Scalar × Value) :
    (pathsItem a o version roster entry).outcome =
      (pathsItem b o version roster entry).outcome := by
  obtain ⟨path, item⟩ := entry
  have hstep : entryStep a o version path = entryStep b o version path := by
    funext shared roster e
    rw [entryStep, entryStep, add_congr (d := .paths) h]
  rw [pathsItem_outcome_foldlM, pathsItem_outcome_foldlM, hstep]

end Items

/-! ## The description -/

/-- **Descriptions whose paths are walked through alike come to the same.** They share everything
else, and of the paths nothing but the walk counts: how many there are is told, and no more. -/
theorem decode_outcome_eq {es items items' : Value.Entries} {o : Options}
    (hd : (select (.object es)).outcome = .ok .paths)
    (hitems : ((es.get "paths").orElse (.object [])).entries = .ok items)
    (h : List.Forall₂ (fun e f => ∀ version roster, (pathsItem es o version roster e).outcome =
      (pathsItem es o version roster f).outcome) items items') :
    (decode (.object (es.set "paths" (.object items'))) o).outcome =
      (decode (.object es) o).outcome := by
  have hagree : AgreeBut "paths" es (es.set "paths" (.object items')) := agreeBut_set es "paths" _
  have hitems' : (((es.set "paths" (.object items')).get "paths").orElse (.object [])).entries =
      .ok items' := by
    rw [get_set, entries_orElse_object]
  have hmodels : (es.set "paths" (.object items')).get "definitions" = es.get "definitions" :=
    (hagree.get_eq (by decide)).symm
  have hfold : ∀ version roster,
      items'.foldlM (fun roster e => (pathsItem (es.set "paths" (.object items')) o version roster
        e).outcome) roster =
      items.foldlM (fun roster e => (pathsItem es o version roster e).outcome) roster := by
    intro version roster
    refine (foldlM_eq_of_forall₂ (h.imp fun e f hef roster => ?_) roster).symm
    rw [hef, pathsItem_congr hagree]
  simp only [decode, decodeAs, Trace.outcome_bind, Trace.outcome_liftM, entries_object, ok_bind, hd,
    ← select_congr (d := .paths) hagree, decodePaths, Trace.outcome_foldlM, Trace.outcome_tell,
    size_of_entries hitems, size_of_entries hitems', hitems, hitems',
    ← pathsHead_congr hagree, hfold, hmodels]

end ApiOutline.Decoding
