/-
Paths whose parameters are written otherwise.

There are two places where a path lists parameters: at its operations, and under the key for all of
its operations. A list can be replaced by another one without the description coming to anything
else, if the two make the same parameters or fail alike (`Restated`). What must not happen besides
is that an operation turns into something else, and replacing a list does not do that: it leaves the
verbs where they are and what is said under every other name (`EntryEdited`, `ItemEdited`).

Lists that make the same parameters still do when others that do are put behind them
(`Interchangeable.append`), which is what an operation does with those of its path. From there the
argument goes the way the document is walked through: what is found for all operations, one
operation, one path (`pathsItem_edited`).
-/
import ApiOutline.Proofs.SharedParameters

set_option autoImplicit false

namespace ApiOutline.Decoding

open Outcome Value

/-! ## Replacing lists of parameters -/

section Edited

variable (R : Value → Value → Prop)

/-- An entry of a path and what is written for it: an operation with other parameters, or other
parameters for all operations of the path. -/
inductive EntryEdited : Scalar × Value → Scalar × Value → Prop where
  | same (e : Scalar × Value) : EntryEdited e e
  | operation {key : Scalar} {node own : Value} {operation : Value.Entries}
      (hkey : isVerb key = true) (hnode : node.entries = .ok operation)
      (h : R (operation.get "parameters") own) :
      EntryEdited (key, node) (key, .object (operation.set "parameters" own))
  | shared {key : String} {v w : Value} (hkey : Text.lower key = "parameters") (h : R v w) :
      EntryEdited (.str key, v) (.str key, w)

/-- A path and what is written for it. -/
inductive ItemEdited : Scalar × Value → Scalar × Value → Prop where
  | same (e : Scalar × Value) : ItemEdited e e
  | item {path : Scalar} {v : Value} {es fs : Value.Entries} (hes : v.entries = .ok es)
      (h : List.Forall₂ (EntryEdited R) es fs) : ItemEdited (path, v) (path, .object fs)

variable {R} {S : Value → Value → Prop}

/-- What may be written for an entry may be written for it under any looser reading of what counts
as the same list: the relation on lists is the only thing that `EntryEdited` asks about them. -/
theorem EntryEdited.imp (hRS : ∀ v w, R v w → S v w) {e f : Scalar × Value}
    (h : EntryEdited R e f) : EntryEdited S e f := by
  cases h with
  | same => exact .same e
  | operation hkey hnode h => exact .operation hkey hnode (hRS _ _ h)
  | shared hkey h => exact .shared hkey (hRS _ _ h)

/-- The same of a whole path, entry by entry. -/
theorem ItemEdited.imp (hRS : ∀ v w, R v w → S v w) {e f : Scalar × Value}
    (h : ItemEdited R e f) : ItemEdited S e f := by
  cases h with
  | same => exact .same e
  | item hes h => exact .item hes (h.imp fun _ _ => EntryEdited.imp hRS)

end Edited

/-! ## Lists that make the same parameters -/

section Interchangeable

variable (spec : Value.Entries) (o : Options)

/-- The parameters that a list of nodes makes. -/
def madeOf (place : String) (nodes : List Value) : Except Fault (List Parameter) := do
  let made ← nodes.mapM fun node => (pathsParameter spec o place node).outcome
  return made.filterMap id

/-- Lists of nodes that make the same parameters, wherever they stand. -/
def Interchangeable (nodes nodes' : List Value) : Prop :=
  ∀ place, madeOf spec o place nodes = madeOf spec o place nodes'

/-- What may be written for a value that lists parameters. Where an operation states its own, only
a list counts; what a path states for all of its operations is taken apart whatever it is. -/
structure Restated (v w : Value) : Prop where
  items : Interchangeable spec o v.items w.items
  elements : Both (Interchangeable spec o) (v.orElse (.list [])).elements
    (w.orElse (.list [])).elements

variable {spec o} {place : String}

/-- The first node is asked first, and what it makes, if it makes anything, stands in front of
what the others make. Stated with the failures: the others are not asked if the first one fails.
-/
theorem madeOf_cons (node : Value) (nodes : List Value) : madeOf spec o place (node :: nodes) = (do
    let made ← (pathsParameter spec o place node).outcome
    let rest ← madeOf spec o place nodes
    return made.toList ++ rest) := by
  rw [madeOf, List.mapM_cons, bind_assoc]
  refine bind_congr fun made => ?_
  rw [madeOf, bind_assoc, bind_assoc]
  refine bind_congr fun rest => ?_
  cases made with
  | none => rfl
  | some p => rfl

/-- What two lists make behind each other is what each of them makes, in this order. By induction
on the first list; associativity of `bind` moves the failures of its head in front. -/
theorem madeOf_append (xs ys : List Value) : madeOf spec o place (xs ++ ys) = (do
    let front ← madeOf spec o place xs
    let rest ← madeOf spec o place ys
    return front ++ rest) := by
  induction xs with
  | nil =>
    rw [List.nil_append]
    exact (bind_pure (madeOf spec o place ys)).symm
  | cons x xs ih =>
    rw [List.cons_append, madeOf_cons, madeOf_cons, ih]
    simp only [bind_assoc, pure_bind, List.append_assoc]

/-- A list of nodes can be exchanged for itself. -/
theorem Interchangeable.refl (nodes : List Value) : Interchangeable spec o nodes nodes :=
  fun _ => rfl

/-- Two lists stay interchangeable with a node in front of each, if the two nodes have the same
outcome wherever they stand. This is how a list is changed at one place only. -/
theorem Interchangeable.cons {node node' : Value} {nodes nodes' : List Value}
    (hnode : ∀ place, (pathsParameter spec o place node).outcome =
      (pathsParameter spec o place node').outcome) (h : Interchangeable spec o nodes nodes') :
    Interchangeable spec o (node :: nodes) (node' :: nodes') := by
  intro place
  rw [madeOf_cons, madeOf_cons, hnode, h place]

/-- Interchangeable lists may be put behind interchangeable lists. An operation does this with its
own nodes and those of its path, so an edit at either place is covered by an edit at that place
alone. -/
theorem Interchangeable.append {xs xs' ys ys' : List Value} (hx : Interchangeable spec o xs xs')
    (hy : Interchangeable spec o ys ys') : Interchangeable spec o (xs ++ ys) (xs' ++ ys') := by
  intro place
  rw [madeOf_append, madeOf_append, hx place, hy place]

/-- The elements of one value are interchangeable with themselves, and a value that has no
elements fails as itself. -/
theorem both_interchangeable_refl (v : Value) :
    Both (Interchangeable spec o) v.elements v.elements := by
  cases v.elements with
  | error e => exact rfl
  | ok nodes => exact .refl nodes

/-- A list may be written for another one that it can be exchanged for. -/
theorem Restated.of_list {v : Value} {nodes nodes' : List Value} (hv : v.opened = .list nodes)
    (h : Interchangeable spec o nodes nodes') : Restated spec o v (.list nodes') := by
  constructor
  case items =>
    rw [Value.items, hv]
    exact h
  case elements =>
    rw [elements_orElse_list hv, elements_orElse_list rfl]
    exact h

/-- Every value may be left as it is. -/
theorem Restated.refl (v : Value) : Restated spec o v v :=
  ⟨.refl v.items, both_interchangeable_refl _⟩

end Interchangeable

/-! ## The same operations -/

section Operations

variable {spec : Value.Entries} {o : Options}

/-- The parameters of an operation are what its own nodes make and then those of its path. -/
theorem parametersOf_eq (place : String) (operation : Value.Entries) (shared : Value) :
    parametersOf spec o place operation shared = (do
      let others ← shared.elements
      madeOf spec o place ((operation.get "parameters").items ++ others)) := by
  rw [parametersOf, parameterNodes, bind_assoc]
  rfl

/-- **The parameters of an operation do not tell which of two restated lists was written**,
neither for its own list nor for the list of its path, and neither when they are made nor when
making them fails. -/
theorem parametersOf_restated {operation operation' : Value.Entries} {shared shared' : Value}
    (hown : Interchangeable spec o (operation.get "parameters").items
      (operation'.get "parameters").items)
    (hshared : Both (Interchangeable spec o) shared.elements shared'.elements) (place : String) :
    parametersOf spec o place operation shared = parametersOf spec o place operation' shared' := by
  rw [parametersOf_eq, parametersOf_eq]
  exact hshared.bind_eq fun _ _ _ _ hothers => hown.append hothers place

/-- A path states the same for all of its operations. The search goes from entry to entry and the
last list counts. At a verb nothing is found on either side, and under the name of the list there
is one that was restated. -/
theorem both_sharedParameters {es fs : Value.Entries}
    (h : List.Forall₂ (EntryEdited (Restated spec o)) es fs) :
    Both (fun shared shared' => Both (Interchangeable spec o) shared.elements shared'.elements)
      (sharedParameters es) (sharedParameters fs) := by
  refine both_foldlM ?_ h (both_interchangeable_refl (.list []))
  rintro found found' e f hfound hef
  cases hef with
  | same =>
    refine both_bind _ fun name => ?_
    by_cases hname : name.map Text.lower = some "parameters"
    · rw [if_pos hname, if_pos hname]
      exact both_interchangeable_refl _
    · rw [if_neg hname, if_neg hname]
      exact hfound
  | @operation key node own operation hkey =>
    -- at a verb nothing is found, whatever is written there
    have hbefore := sharedParameters_verb (e := (key, node)) hkey found
    have hbehind := sharedParameters_verb
      (e := (key, .object (operation.set "parameters" own))) hkey found'
    dsimp only at hbefore hbehind ⊢
    rw [hbefore, hbehind]
    exact hfound
  | @shared key v w hkey hrestated =>
    have hname : Option.map Text.lower (some key) = some "parameters" := congrArg some hkey
    dsimp only [spelling]
    rw [ok_bind, ok_bind, if_pos hname, if_pos hname]
    exact hrestated.elements

/-- An operation says the same, but for how its parameters are written. An entry is untouched, or
it is an operation with a list of its own that was restated, or it is the list of its path, and
that is under no verb. -/
theorem entryAlike_of_edited {path : Scalar} {shared shared' : Value}
    (hshared : Both (Interchangeable spec o) shared.elements shared'.elements)
    {e f : Scalar × Value} (h : EntryEdited (Restated spec o) e f) :
    EntryAlike spec o path shared shared' e f := by
  cases h with
  -- nothing is edited here, but the list of the path may be another one
  | same =>
    refine ⟨rfl, fun verb _ => ⟨rfl, rfl, ?_, ?_⟩⟩
    · cases e.2.entries with
      | error _ => exact rfl
      | ok _ => exact fun _ _ => rfl
    · intro a b place ha hb
      obtain rfl : a = b := Except.ok.inj (ha.symm.trans hb)
      exact parametersOf_restated (.refl _) hshared place
  | @operation key node own operation hkey hnode hown =>
    refine ⟨rfl, fun verb _ => ⟨rfl, rfl, ?_, ?_⟩⟩
    · dsimp only
      rw [hnode]
      exact agreeBut_set operation "parameters" own
    · intro a b place ha hb
      obtain rfl : operation = a := Except.ok.inj (hnode.symm.trans ha)
      obtain rfl : operation.set "parameters" own = b := Except.ok.inj hb
      refine parametersOf_restated ?_ hshared place
      rw [get_set]
      exact hown.items
  | @shared key v w hkey _ =>
    -- what a path states for all of its operations is no operation
    refine ⟨rfl, fun verb hverb => ?_⟩
    have hnone : verbOf (.str key) = .ok none := by
      rw [verbOf_str, if_neg fun hmem => lower_ne_parameters hmem hkey]
    exact nomatch hnone.symm.trans hverb

/-- **A path does the same to every roster when its lists of parameters are replaced by others that
make the same parameters.** -/
theorem pathsItem_edited {e f : Scalar × Value} (h : ItemEdited (Restated spec o) e f)
    (version : Option String) (roster : Roster) :
    (pathsItem spec o version roster e).outcome = (pathsItem spec o version roster f).outcome := by
  cases h with
  | same => rfl
  | item hes hentries =>
    -- the verbs are asked one by one, each with the shared nodes that both sides found
    refine pathsItem_outcome_eq hes rfl (both_sharedParameters hentries) ?_ version roster
    intro shared shared' hshared
    exact hentries.imp fun _ _ => entryAlike_of_edited hshared

end Operations

end ApiOutline.Decoding
