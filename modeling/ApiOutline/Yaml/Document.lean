/-
The value of a document.

The values of its nodes are put together, from the root on. A node that is met inside itself is
taken apart again for a while and then left empty: a value is a tree, and whoever walks along it
does not go round in circles for long.
-/
import ApiOutline.Yaml.Node.Parts
import ApiOutline.Yaml.Node.Reader

set_option autoImplicit false

namespace ApiOutline.Yaml

/-- How often a node is taken apart inside itself. -/
def againLimit : Nat := 2

/-- A value, and whether some node was met inside itself on the way to it. -/
structure Assembled (α : Type) where
  value : α
  loops : Bool

/-- The values of nodes that do not contain themselves, as far as they are known. -/
abbrev Assembly := StateM (Array (Option Value))

section

variable (parts : Array (Option Part))

/-- A value with parts and nothing in it. -/
def emptyValue (n : Nat) : Value :=
  match parts.getD n none with
  | some (.object _) => .object []
  | _ => .list []

mutual

/-- The value of a node inside those of a path. -/
def assemble : (fuel : Nat) → (path : List Nat) → (n : Nat) → Assembly (Assembled Value)
  | 0, _, _ => return ⟨.null, true⟩
  | fuel + 1, path, n => do
    let times := path.count n
    if againLimit < times then return ⟨.again (emptyValue parts n), true⟩
    match (← get).getD n none with
    | some v => return ⟨v, false⟩
    | none =>
      let r ← assemblePart fuel (n :: path) ((parts.getD n none).getD (.scalar .null))
      if 0 < times then return ⟨.again r.value, true⟩
      if !r.loops then modify fun known => known.setIfInBounds n (some r.value)
      return r

def assemblePart : (fuel : Nat) → (path : List Nat) → Part → Assembly (Assembled Value)
  | 0, _, _ => return ⟨.null, true⟩
  | fuel + 1, path, p => do
    match p with
    | .scalar s => return ⟨.scalar s, false⟩
    | .set ms => return ⟨.set ms, false⟩
    | .list items =>
      let r ← assembleItems fuel path items
      return ⟨.list r.value, r.loops⟩
    | .rows items =>
      let r ← assembleRows fuel path items
      return ⟨.list r.value, r.loops⟩
    | .object es =>
      let r ← assembleEntries fuel path es
      return ⟨.object r.value, r.loops⟩

def assembleItems (fuel : Nat) (path : List Nat) : List Nat → Assembly (Assembled (List Value))
  | [] => return ⟨[], false⟩
  | n :: rest => do
    let v ← assemble fuel path n
    let vs ← assembleItems fuel path rest
    return ⟨v.value :: vs.value, v.loops || vs.loops⟩

def assembleRows (fuel : Nat) (path : List Nat) :
    List (Nat × Nat) → Assembly (Assembled (List Value))
  | [] => return ⟨[], false⟩
  | (m, n) :: rest => do
    let k ← assemble fuel path m
    let v ← assemble fuel path n
    let vs ← assembleRows fuel path rest
    return ⟨.tuple [k.value, v.value] :: vs.value, k.loops || v.loops || vs.loops⟩

def assembleEntries (fuel : Nat) (path : List Nat) :
    List (Scalar × Nat) → Assembly (Assembled (List (Scalar × Value)))
  | [] => return ⟨[], false⟩
  | (k, n) :: rest => do
    let v ← assemble fuel path n
    let vs ← assembleEntries fuel path rest
    return ⟨(k, v.value) :: vs.value, v.loops || vs.loops⟩

end

end

/-- The value of a document. A path holds no node more often than it is taken apart. -/
def Document.value (d : Document) : Except Failure Value := do
  let parts ← d.parts
  let fuel := 2 * ((againLimit + 2) * d.nodes.size + 2)
  let known := Array.replicate d.nodes.size none
  return ((assemble parts fuel [] d.root).run known).1.value

/-- The value that a text writes; an empty text writes null. -/
def parse (text : String) : Except Failure Value := do
  let document ← ((Token.scan text.toList).bind Document.ofTokens).mapError Failure.malformed
  match document with
  | none => return .null
  | some d => d.value

end ApiOutline.Yaml
