/-
The operations of a translated listing.

Resources become entries of an object of paths, and their operations entries of an object of verbs.
Objects keep their entries in the order in which they were put as long as no key comes twice, so
the operations of the translation are those of the listing, translated one by one and in the same
order (`operations_asPaths`).

A key of a path could also mean parameters for all of its operations, but here all keys are verbs,
and a verb cannot mean that.
-/
import ApiOutline.Proofs.Translation.Operation
import ApiOutline.Proofs.Verbs
import Mathlib.Data.List.Nodup

set_option autoImplicit false

namespace ApiOutline

open Value

namespace Decoding

open Outcome

/-! ## One resource -/

/-- An operation that a resource lists. -/
def listedAt (path : String) (node : Value) : Operation :=
  ⟨.str path, .str (Text.upper (textIn "method" node)), .list [], node⟩

/-- The operations that a resource lists. -/
def listed (resource : Value) : List Operation :=
  (itemsIn "operations" resource).map (listedAt (textIn "path" resource))

theorem textIn_of_entry {name s : String} {v : Value} (h : v.entry name = .ok (.str s)) :
    textIn name v = s := by
  rw [textIn, h]

theorem itemsIn_of_entry {name : String} {v w : Value} {xs : List Value} (h : v.entry name = .ok w)
    (hopened : w.opened = .list xs) : itemsIn name v = xs := by
  rw [itemsIn, h]
  dsimp only
  rw [hopened]

theorem verb_of_plain {node : Value} (h : PlainOperation node) :
    node.entry "method" = .ok (.str (textIn "method" node)) ∧
      Text.upper (textIn "method" node) ∈ httpVerbs := by
  obtain ⟨es, hes, ⟨verb, hlookup, hverb⟩, _⟩ := h
  have hentry := entry_of_entries hes hlookup
  rw [textIn_of_entry hentry]
  exact ⟨hentry, hverb⟩

/-- A resource has the operations that it lists. -/
theorem resourceOperations_eq {resource : Value} (h : PlainResource resource) :
    resourceOperations resource = .ok (listed resource) := by
  obtain ⟨path, operations, nodes, hpath, hoperations, hopened, hplain, _⟩ := h
  have hlisted : ∀ node ∈ nodes,
      listedOperation resource node = .ok [listedAt path node] := by
    intro node hmem
    rw [listedOperation, hpath, ok_bind, listingVerb, (verb_of_plain (hplain node hmem)).1]
    rfl
  have helements : operations.elements = .ok nodes := by rw [Value.elements, hopened]
  rw [resourceOperations, hoperations, ok_bind, helements, ok_bind, listed,
    itemsIn_of_entry hoperations hopened, textIn_of_entry hpath, List.map_eq_flatMap]
  exact collect_eq_ok hlisted

/-- The path that a resource becomes has the same operations, translated. Its keys are the
methods, which are all different, so that no operation takes the place of another; and they are
verbs, so that nothing is stated for all operations. -/
theorem itemOperations_eq {resource : Value} (h : PlainResource resource) :
    itemOperations (resourceAsPaths resource) =
      .ok ((listed resource).map Operation.asPaths) := by
  obtain ⟨path, operations, nodes, hpath, hoperations, hopened, hplain, hverbs⟩ := h
  let item := nodes.map fun node => (Scalar.str (textIn "method" node), operationAsPaths node)
  have hkeys : (nodes.map (textIn "method")).Nodup := by
    -- what is different in capitals is different as it stands
    refine List.Nodup.of_map Text.upper ?_
    rw [List.map_map]
    exact hverbs
  have hitem : ofEntries item = item := ofEntries_of_nodup hkeys
  have hshared : sharedParameters item = .ok (.list []) := by
    refine sharedParameters_verbs fun e he => ?_
    obtain ⟨node, hmem, rfl⟩ := List.mem_map.1 he
    exact List.contains_iff_mem.2 (verb_of_plain (hplain node hmem)).2
  have hkeyed : ∀ node ∈ nodes, operationAt (.str path) (.list [])
      (.str (textIn "method" node), operationAsPaths node) =
        .ok [(listedAt path node).asPaths] := by
    intro node hmem
    rw [operationAt, if_pos (verb_of_plain (hplain node hmem)).2]
    rfl
  have hlisted : (listed resource).map Operation.asPaths =
      nodes.flatMap fun node => [(listedAt path node).asPaths] := by
    rw [listed, itemsIn_of_entry hoperations hopened, textIn_of_entry hpath, List.map_map,
      List.map_eq_flatMap]
    rfl
  rw [itemOperations, resourceAsPaths, itemsIn_of_entry hoperations hopened,
    textIn_of_entry hpath, hitem, Value.entries_object, ok_bind, hshared, ok_bind, hlisted,
    collect_map]
  exact collect_eq_ok hkeyed

end Decoding

end ApiOutline
