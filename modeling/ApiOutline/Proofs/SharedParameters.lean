/-
Parameters that a path states for all of its operations.

A path may state parameters for its operations as a whole. This is only a way of writing them: the
description comes to the same, whether that is an outline or a failure, when they are written out
behind the parameters of each operation and the path states none (`decode_spread`).

A path can state them under several keys, since the case of the key does not matter. The last of the
keys counts, whatever the ones before it hold, and if it holds nothing there are none. So the keys
can be taken out one by one while the path is walked through, and what is found in the end is what
was put behind every operation (`both_sharedFrom`). That a key is taken out where no operation is
lost comes from the verbs: none of them is written like such a key.
-/
import ApiOutline.Proofs.PathByPath
import ApiOutline.Proofs.Verbs

set_option autoImplicit false

namespace ApiOutline

/-- The items of a list. Other values have none. -/
def Value.items (v : Value) : List Value :=
  match v.opened with
  | .list items => items
  | _ => []

/-- A list has its items. -/
theorem Value.items_list (xs : List Value) : (list xs).items = xs := rfl

namespace Decoding

open Outcome Value

/-! ## Writing them out -/

/-- A key under which a path states parameters for all of its operations. -/
def isSharedKey : Scalar → Bool
  | .str key => Text.lower key == "parameters"
  | _ => false

/-- What a path states for all of its operations: what the last of those keys holds. -/
def lastShared (item : Value.Entries) : Option Value :=
  (item.filter (isSharedKey ·.1)).getLast?.map (·.2)

/-- The nodes of those parameters. -/
def sharedNodes (item : Value.Entries) : List Value :=
  ((lastShared item).map Value.items).getD []

/-- An operation with nodes behind those of its own parameters. What is no object is left as it
is. -/
def withNodes (nodes : List Value) (node : Value) : Value :=
  match node.entries with
  | .ok operation =>
    .object (Entries.set operation "parameters"
      (.list ((Entries.get operation "parameters").items ++ nodes)))
  | .error _ => node

/-- An entry of a path with nodes for all operations, if it is one. -/
def spreadEntry (nodes : List Value) (e : Scalar × Value) : Scalar × Value :=
  if isVerb e.1 then (e.1, withNodes nodes e.2) else e

/-- The entries of a path with nodes written out at each operation. -/
def spreadEntries (nodes : List Value) (item : Value.Entries) : Value.Entries :=
  (item.filter (!isSharedKey ·.1)).map (spreadEntry nodes)

/-- A path that states nothing for all of its operations any more. -/
def spreadItem (e : Scalar × Value) : Scalar × Value :=
  match e.2.entries with
  | .ok item => (e.1, .object (spreadEntries (sharedNodes item) item))
  | .error _ => e

/-- A description with the parameters of every path written out at its operations. -/
def spread (spec : Value.Entries) : Value.Entries :=
  match (spec.get "paths").entries with
  | .ok items => spec.set "paths" (.object (items.map spreadItem))
  | .error _ => spec

/-- A value that is a list or counts as absent. -/
def IsListed (v : Value) : Prop :=
  v.truthy = false ∨ ∃ items, v.opened = .list items

/-- A path that states its parameters as lists. -/
def SharesLists (item : Value) : Prop :=
  ∀ entries, item.entries = .ok entries → ∀ e ∈ entries, isSharedKey e.1 = true → IsListed e.2

/-! ## What is found -/

/-- What is found for all operations from some of the entries of a path on. -/
def sharedFrom (found : Value) (item : Value.Entries) : Except Fault Value :=
  item.foldlM (fun found (key, v) => do
    let name ← spelling key
    return if name.map Text.lower = some "parameters" then v.orElse (.list []) else found) found

/-- What is found in the end. What counts as absent is found as the empty list. -/
def foundLast (found : Value) (item : Value.Entries) : Value :=
  match lastShared item with
  | some v => v.orElse (.list [])
  | none => found

section Keys

variable {e : Scalar × Value}

/-- Such a key is a text that reads `parameters` in small letters. -/
theorem isSharedKey_iff : isSharedKey e.1 = true ↔
    ∃ key, e.1 = .str key ∧ Text.lower key = "parameters" := by
  cases e.1 with
  | str key =>
    rw [isSharedKey, beq_iff_eq]
    exact ⟨fun h => ⟨key, rfl, h⟩, fun ⟨_, hkey, h⟩ => Scalar.str.inj hkey ▸ h⟩
  | _ => exact ⟨fun h => (nomatch h), fun ⟨_, hkey, _⟩ => (nomatch hkey)⟩

/-- One of the keys replaces what was found before. -/
theorem sharedFrom_cons_shared (h : isSharedKey e.1 = true) (found : Value) (rest : Value.Entries) :
    sharedFrom found (e :: rest) = sharedFrom (e.2.orElse (.list [])) rest := by
  obtain ⟨key, v⟩ := e
  obtain ⟨name, hkey, hname⟩ := isSharedKey_iff.1 h
  obtain rfl : key = .str name := hkey
  have hfound : (some name).map Text.lower = some "parameters" := congrArg some hname
  rw [sharedFrom, List.foldlM_cons]
  dsimp only [spelling]
  rw [ok_bind, if_pos hfound]
  rfl

/-- Any other key is only asked how it is spelled. -/
theorem sharedFrom_cons_other (h : isSharedKey e.1 = false) (found : Value) (rest : Value.Entries) :
    sharedFrom found (e :: rest) = (do let _ ← spelling e.1; sharedFrom found rest) := by
  obtain ⟨key, v⟩ := e
  rw [sharedFrom, List.foldlM_cons, bind_assoc]
  refine bind_congr_ok fun name hname => ?_
  have hother : ¬ name.map Text.lower = some "parameters" := by
    intro hparameters
    obtain ⟨s, rfl, hs⟩ := Option.map_eq_some_iff.1 hparameters
    cases key with
    | str key =>
      obtain rfl := Option.some.inj (Except.ok.inj hname)
      rw [isSharedKey_iff.2 ⟨key, rfl, hs⟩] at h
      exact nomatch h
    | bytes octets => exact nomatch Except.ok.inj hname
    | _ => exact nomatch hname
  rw [if_neg hother]
  rfl

/-- One of the keys makes everything forgotten that was found before it: what it holds is found,
unless a later one follows. -/
theorem foundLast_cons_shared (h : isSharedKey e.1 = true) (found : Value) (rest : Value.Entries) :
    foundLast found (e :: rest) = foundLast (e.2.orElse (.list [])) rest := by
  rw [foundLast, foundLast, lastShared, lastShared, List.filter_cons, if_pos h, List.getLast?_cons]
  cases (rest.filter (isSharedKey ·.1)).getLast? with
  | none => rfl
  | some f => rfl

/-- Any other key can be left out when the last one is looked for. -/
theorem foundLast_cons_other (h : isSharedKey e.1 = false) (found : Value) (rest : Value.Entries) :
    foundLast found (e :: rest) = foundLast found rest := by
  rw [foundLast, foundLast, lastShared, lastShared, List.filter_cons,
    if_neg (h ▸ Bool.false_ne_true)]

/-- What is written out at an operation is under the key of the operation. -/
theorem spreadEntry_fst (nodes : List Value) (e : Scalar × Value) :
    (spreadEntry nodes e).1 = e.1 := by
  rw [spreadEntry]
  split
  · rfl
  · rfl

end Keys

/-- **What is found for all operations of a path is what the last of the keys holds, and nothing is
found any more where they are taken out.** The same spellings are refused. -/
theorem both_sharedFrom (nodes : List Value) (item : Value.Entries) (found : Value) :
    Both (fun shared shared' => shared = foundLast found item ∧ shared' = .list [])
      (sharedFrom found item) (sharedFrom (.list []) (spreadEntries nodes item)) := by
  induction item generalizing found with
  | nil => exact ⟨rfl, rfl⟩
  | cons e rest ih =>
    by_cases hshared : isSharedKey e.1 = true
    · -- the key is gone on the right, and on the left what it holds takes the place of `found`
      have hspread : spreadEntries nodes (e :: rest) = spreadEntries nodes rest := by
        rw [spreadEntries, List.filter_cons, if_neg (by rw [hshared]; exact Bool.false_ne_true)]
        rfl
      rw [sharedFrom_cons_shared hshared, foundLast_cons_shared hshared, hspread]
      exact ih (e.2.orElse (.list []))
    · -- the key is on both sides and is spelled or refused alike
      have hother : isSharedKey e.1 = false := Bool.not_eq_true _ ▸ hshared
      have hspread : spreadEntries nodes (e :: rest) =
          spreadEntry nodes e :: spreadEntries nodes rest := by
        rw [spreadEntries, List.filter_cons, if_pos (by rw [hother]; rfl)]
        rfl
      rw [sharedFrom_cons_other hother, foundLast_cons_other hother, hspread,
        sharedFrom_cons_other (by rw [spreadEntry_fst]; exact hother), spreadEntry_fst]
      exact both_bind _ fun _ => ih found

section Lists

variable {v : Value}

/-- What counts as absent is replaced by the empty list, and has no items itself. -/
theorem elements_of_isListed (h : IsListed v) : (v.orElse (.list [])).elements = .ok v.items := by
  rcases h with habsent | ⟨items, hitems⟩
  · have hnone : v.items = [] := by
      -- of the values that count as absent only the empty list has items to ask for, and has none
      cases v with
      | list xs =>
        cases xs with
        | nil => rfl
        | cons x rest => exact nomatch habsent
      | again v => exact nomatch habsent
      | _ => rfl
    rw [orElse, if_neg (habsent ▸ Bool.false_ne_true), hnone]
    rfl
  · rw [elements_orElse_list hitems, Value.items, hitems]

/-- What is found for all operations of a path are its nodes. -/
theorem elements_foundLast {item : Value.Entries}
    (h : ∀ e ∈ item, isSharedKey e.1 = true → IsListed e.2) :
    (foundLast (.list []) item).elements = .ok (sharedNodes item) := by
  rw [foundLast, sharedNodes]
  cases hlast : lastShared item with
  | none => rfl
  | some v =>
    obtain ⟨e, he, rfl⟩ := Option.map_eq_some_iff.1 hlast
    obtain ⟨hmem, hkey⟩ := List.mem_filter.1 (List.mem_of_getLast? he)
    exact elements_of_isListed (h e hmem hkey)

end Lists

/-! ## The same operations -/

section Operations

variable {spec : Value.Entries} {o : Options}

/-- The nodes of an operation are its own, and behind them those that are found for its path. -/
theorem parameterNodes_eq {operation : Value.Entries} {shared : Value} {nodes : List Value}
    (h : shared.elements = .ok nodes) :
    parameterNodes operation shared = .ok ((operation.get "parameters").items ++ nodes) := by
  rw [parameterNodes, h]
  rfl

/-- **An operation with the nodes of its path written out says the same without its path.**
Nothing but its list of parameters is another one. What is gone through is its own list and that
of its path behind it, wherever the border between the two is. -/
theorem alike_withNodes {path verb shared node : Value} {nodes : List Value}
    (h : shared.elements = .ok nodes) :
    Alike spec o ⟨path, verb, shared, node⟩ ⟨path, verb, .list [], withNodes nodes node⟩ := by
  constructor
  case path => rfl
  case verb => rfl
  case entries =>
    dsimp only
    rw [withNodes]
    cases hentries : node.entries with
    | error e =>
      dsimp only
      rw [hentries]
      exact rfl
    | ok operation => exact agreeBut_set operation "parameters" _
  case parameters =>
    intro (a : Entries) (b : Entries) place ha hb
    dsimp only at ha hb ⊢
    rw [withNodes, ha] at hb
    have hwritten : b.get "parameters" = .list ((a.get "parameters").items ++ nodes) := by
      rw [← Except.ok.inj hb]
      exact get_set a "parameters" _
    have hnone : (Value.list []).elements = .ok [] := rfl
    -- the nodes are the same, once split between operation and path and once all at the operation
    rw [parametersOf, parametersOf, parameterNodes_eq h, parameterNodes_eq hnone, hwritten,
      Value.items_list, List.append_nil]

/-- What is written out at a key of a path is alike, if it is an operation, and else the same. -/
theorem entryAlike_spreadEntry {path : Scalar} {shared : Value} {nodes : List Value}
    (h : shared.elements = .ok nodes) (e : Scalar × Value) :
    EntryAlike spec o path shared (.list []) e (spreadEntry nodes e) := by
  refine ⟨(spreadEntry_fst nodes e).symm, fun verb hverb => ?_⟩
  have hkey : isVerb e.1 = true := isVerb_of_verbOf hverb
  rw [spreadEntry, if_pos hkey]
  exact alike_withNodes h

/-- One of the keys for all operations is no operation. -/
theorem entryStep_of_isSharedKey {version : Option String} {path : Scalar} {shared : Value}
    {e : Scalar × Value} (h : isSharedKey e.1 = true) (roster : Roster) :
    entryStep spec o version path shared roster e = .ok roster := by
  obtain ⟨key, hkey, hname⟩ := isSharedKey_iff.1 h
  have hnone : verbOf e.1 = .ok none := by
    rw [hkey, verbOf_str, if_neg fun hverb => lower_ne_parameters hverb hname]
  rw [entryStep, hnone]
  rfl

/-- **A path does the same to every roster when its parameters are written out.** The entries with
lists for all operations are taken out, which no roster notices, and the operations are alike one
by one. -/
theorem pathsItem_spreadItem {e : Scalar × Value} (h : SharesLists e.2) (version : Option String)
    (roster : Roster) : (pathsItem spec o version roster e).outcome =
      (pathsItem spec o version roster (spreadItem e)).outcome := by
  obtain ⟨path, item⟩ := e
  rw [spreadItem]
  cases hentries : item.entries with
  | error _ => rfl
  | ok entries =>
    dsimp only at h ⊢
    rw [pathsItem_outcome_foldlM, pathsItem_outcome_foldlM, hentries, entries_object, ok_bind,
      ok_bind]
    -- on the left the shared nodes are found, on the right there are none
    have hfound := both_sharedFrom (sharedNodes entries) entries (.list [])
    refine hfound.bind_eq fun shared shared' _ _ hshared => ?_
    obtain ⟨rfl, rfl⟩ := hshared
    have hnodes := elements_foundLast (h entries hentries)
    -- the keys that are taken out are passed over, and the others are alike
    have hkept := foldlM_filter (f := entryStep spec o version path (foundLast (.list []) entries))
      (p := fun e => !isSharedKey e.1) ?_ entries roster
    · rw [← hkept, spreadEntries]
      refine foldlM_eq_of_forall₂ ?_ roster
      rw [List.forall₂_map_right_iff, List.forall₂_same]
      exact fun e _ roster => (entryAlike_spreadEntry hnodes e).entryStep_eq version roster
    · intro roster e hout
      exact entryStep_of_isSharedKey (by simpa using hout) roster

end Operations

/-! ## The description -/

/-- **Parameters for all operations of a path are a way of writing them**: the description comes to
the same when they are written out at every operation. -/
theorem decode_spread {es : Value.Entries} {o : Options}
    (hd : (select (.object es)).outcome = .ok .paths)
    (hlists : ∀ items, (es.get "paths").entries = .ok items → ∀ e ∈ items, SharesLists e.2) :
    (decode (.object (spread es)) o).outcome = (decode (.object es) o).outcome := by
  rw [spread]
  cases hitems : (es.get "paths").entries with
  | error _ => rfl
  | ok items =>
    refine decode_outcome_eq hd (entries_orElse hitems) ?_
    rw [List.forall₂_map_right_iff, List.forall₂_same]
    exact fun e he version roster => pathsItem_spreadItem (hlists items hitems e he) version roster

/-- A path that states parameters for both of its operations, and then other ones. -/
def rooms : Value.Entries :=
  [(.str "parameters", .list [.ofFields [("name", .str "floor"), ("in", .str "query")]]),
    (.str "get", .ofFields [("operationId", .str "fetch"), ("parameters", .list [
      .ofFields [("name", .str "page"), ("in", .str "query")]])]),
    (.str "Parameters", .list [.ofFields [("name", .str "house"), ("in", .str "query")]]),
    (.str "Put", .ofFields [("operationId", .str "book")])]

/-- The two operations with the parameters that count. -/
def furnishedRooms : Value.Entries :=
  [(.str "get", .ofFields [("operationId", .str "fetch"), ("parameters", .list [
      .ofFields [("name", .str "page"), ("in", .str "query")],
      .ofFields [("name", .str "house"), ("in", .str "query")]])]),
    (.str "Put", .ofFields [("operationId", .str "book"), ("parameters", .list [
      .ofFields [("name", .str "house"), ("in", .str "query")]])])]

/-- A house with these rooms. -/
def housed (rooms : Value.Entries) : Value.Entries :=
  [(.str "swagger", .str "2.0"), (.str "info", .object []),
    (.str "paths", .object [(.str "/rooms", .object rooms)])]

example : spread (housed rooms) = housed furnishedRooms := by rfl

/-- All that these rooms state for their operations as a whole are lists. -/
theorem rooms_sharesLists : SharesLists (.object rooms) := by
  intro entries hentries e he hshared
  obtain rfl : rooms = entries := Except.ok.inj hentries
  simp only [rooms, List.mem_cons, List.not_mem_nil, or_false] at he
  rcases he with rfl | rfl | rfl | rfl
  · exact .inr ⟨_, rfl⟩
  · exact absurd hshared (by decide +kernel)
  · exact .inr ⟨_, rfl⟩
  · exact absurd hshared (by decide +kernel)

/-- Of the two lists for all operations the last one counts, and decoding comes to the same when
it is written out behind the one parameter of `get` and alone at `Put`. -/
theorem decode_spread_rooms :
    (select (.object (housed rooms))).outcome = .ok .paths ∧
      (decode (.object (spread (housed rooms))) {}).outcome =
        (decode (.object (housed rooms)) {}).outcome := by
  have hdialect : (select (.object (housed rooms))).outcome = .ok .paths := by rfl
  refine ⟨hdialect, decode_spread hdialect ?_⟩
  intro items hitems e he
  have hrooms : [(Scalar.str "/rooms", object rooms)] = items := Except.ok.inj hitems
  rw [← hrooms] at he
  rw [List.mem_singleton.1 he]
  exact rooms_sharesLists

end Decoding

end ApiOutline
