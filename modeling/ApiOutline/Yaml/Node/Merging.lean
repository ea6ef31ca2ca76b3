/-
Merging mappings.

A mapping may name others that are to be merged into it. Their entries are put in front of its own,
so that its own ones win, and of several named in a list the earlier ones win over the later. What
is merged may itself have something merged into it, and may be the mapping that it is merged into:
the key under which something is merged is taken out before it is looked at, so that nothing is
merged twice.
-/
import ApiOutline.Yaml.Defect
import ApiOutline.Yaml.Node

set_option autoImplicit false

namespace ApiOutline.Yaml

namespace Merging

/-- A computation on the nodes of a document. -/
abbrev M := StateT (Array Node) (Except Defect)

def nodeAt (n : Nat) : M Node := do
  return (← get).getD n .empty

def kindOf (n : Nat) : M Kind := do
  return (← nodeAt n).kind

/-- The entries of a mapping. -/
def entriesOf (n : Nat) : M (List (Nat × Nat)) := do
  match (← nodeAt n).content with
  | .mapping es => return es
  | _ => return []

def setEntries (n : Nat) (es : List (Nat × Nat)) : M Unit :=
  modify fun nodes => nodes.modify n fun node => { node with content := .mapping es }

def setKind (n : Nat) (k : Kind) : M Unit :=
  modify fun nodes => nodes.modify n fun node => { node with kind := k }

/-- Is there anything to be done to a mapping? -/
def isUntouched (n : Nat) : M Bool := do
  (← entriesOf n).allM fun (k, _) => do
    match ← kindOf k with
    | .merge | .default => return false
    | _ => return true

mutual

/-- Merges into a mapping what it names. The sign for a default value stands for itself when it is
a key. -/
def absorb : (fuel : Nat) → (n : Nat) → M Unit
  | 0, _ => throw .badMerge
  | fuel + 1, n => do
    if ← isUntouched n then return else absorbFrom fuel n 0 []

/-- Merges what is named from an entry on; `merged` are the entries to be put in front. -/
def absorbFrom : (fuel : Nat) → (n place : Nat) → (merged : List (Nat × Nat)) → M Unit
  | 0, _, _, _ => throw .badMerge
  | fuel + 1, n, place, merged => do
    let es ← entriesOf n
    match es[place]? with
    | none => setEntries n (merged ++ es)
    | some (k, v) =>
      match ← kindOf k with
      | .merge =>
        setEntries n (es.eraseIdx place)
        let more ← mergedFrom fuel v
        absorbFrom fuel n place (merged ++ more)
      | .default =>
        setKind k .text
        absorbFrom fuel n (place + 1) merged
      | _ => absorbFrom fuel n (place + 1) merged

/-- The entries to be merged that a node stands for: a mapping, or a list of mappings. -/
def mergedFrom : (fuel : Nat) → (n : Nat) → M (List (Nat × Nat))
  | 0, _ => throw .badMerge
  | fuel + 1, n => do
    match (← nodeAt n).content with
    | .mapping _ => mergedMapping fuel n
    | .list items => mergedItems fuel [] items
    | .text _ => throw .badMerge

def mergedMapping : (fuel : Nat) → (n : Nat) → M (List (Nat × Nat))
  | 0, _ => throw .badMerge
  | fuel + 1, n => do
    match (← nodeAt n).content with
    | .mapping _ =>
      absorb fuel n
      entriesOf n
    | _ => throw .badMerge

/-- The entries of several mappings, those of the last one first. -/
def mergedItems : (fuel : Nat) → (behind : List (Nat × Nat)) → List Nat → M (List (Nat × Nat))
  | 0, _, _ => throw .badMerge
  | _ + 1, behind, [] => return behind
  | fuel + 1, behind, n :: rest => do
    let es ← mergedMapping fuel n
    mergedItems fuel (es ++ behind) rest

end

/-- The size of what a node holds. -/
def sizeOf (n : Node) : Nat :=
  match n.content with
  | .text _ => 1
  | .list items => items.length + 1
  | .mapping es => es.length + 1

/-- Steps enough for all that can be merged: no mapping is merged into itself more often than it
has entries. -/
def fuelFor (nodes : Array Node) : Nat :=
  let total := (nodes.map sizeOf).foldl (· + ·) 1
  4 * total * total

end Merging

end ApiOutline.Yaml
