/-
The values of nodes, part by part.

Every node has a value of its own. Those of scalar kinds are known at once; what a list, a mapping
or the like consists of is found out later, in the order in which such nodes were met, so that of
several faults the one nearest to the root counts, and of those the one written first. A node that
is referred to from several places is looked at once.
-/
import ApiOutline.Value.Members
import ApiOutline.Yaml.Node.Merging
import ApiOutline.Yaml.Scalar

set_option autoImplicit false

namespace ApiOutline.Yaml

/-- What the value of a node is made of. Parts are nodes by number. -/
inductive Part where
  | scalar (s : Scalar)
  | list (items : List Nat)
  /-- A list of keys and what goes with each. -/
  | rows (items : List (Nat × Nat))
  | set (members : List Scalar)
  | object (entries : List (Scalar × Nat))

/-- Does a kind make a value with parts? None are known at first. -/
def Kind.emptyPart? : Kind → Option Part
  | .list => some (.list [])
  | .orderedMapping | .pairs => some (.rows [])
  | .set => some (.set [])
  | .mapping => some (.object [])
  | _ => none

/-- The nodes of a document and what is known of their values. -/
structure PartFinder where
  nodes : Array Node
  known : Array (Option Part)
  /-- The nodes with parts that have been met, in order. -/
  met : Array Nat

namespace PartFinder

abbrev M := StateT PartFinder (Except Failure)

def fail {α : Type} (d : Defect) : M α := throw (.ofDefect d)

def nodeAt (n : Nat) : M Node := do
  return (← get).nodes.getD n .empty

def setKnown (n : Nat) (p : Part) : M Unit :=
  modify fun s => { s with known := s.known.setIfInBounds n (some p) }

/-! ## Scalars -/

/-- The first entry under the sign for a default value. -/
def defaultOf (nodes : Array Node) (es : List (Nat × Nat)) : Option Nat :=
  (es.find? fun (k, _) => (nodes.getD k .empty).kind == .default).map Prod.snd

/-- The text of a node that is to be a scalar. A mapping may give it as its default value. -/
def textOf (nodes : Array Node) : (fuel : Nat) → (n : Nat) → Except Failure String
  | 0, _ => .error .endless
  | fuel + 1, n =>
    match (nodes.getD n .empty).content with
    | .text s => .ok s
    | .list _ => .error (.ofDefect .wrongKind)
    | .mapping es =>
      match defaultOf nodes es with
      | some v => textOf nodes fuel v
      | none => .error (.ofDefect .wrongKind)

/-- The value of a node of a scalar kind. A date or time cannot be given as a default value. -/
def scalarAt (nodes : Array Node) (n : Nat) : Except Failure Scalar := do
  let node := nodes.getD n .empty
  match node.kind with
  | .merge | .default | .unknown _ => throw (.ofDefect .unknownTag)
  | kind =>
    let s ← textOf nodes (nodes.size + 1) n
    match kind, node.content with
    | .time, .mapping _ => throw .timeInParts
    | kind, _ => scalarOf kind s

/-- The value of a node, as far as it can be told when the node is met. -/
def meet (n : Nat) : M Part := do
  let s ← get
  match s.known.getD n none with
  | some p => return p
  | none =>
    match (← nodeAt n).kind.emptyPart? with
    | some p =>
      set { s with met := s.met.push n }
      setKnown n p
      return p
    | none =>
      let p := Part.scalar (← scalarAt s.nodes n)
      setKnown n p
      return p

/-! ## Parts -/

/-- The value of a node as a key, which has no parts. -/
def meetKey (n : Nat) : M Scalar := do
  match ← meet n with
  | .scalar s => return s
  | _ => fail .badKey

/-- Entries with one more, in the place of an entry with the same key or at the end. -/
def putEntry (key : Scalar) (n : Nat) : List (Scalar × Nat) → List (Scalar × Nat)
  | [] => [(key, n)]
  | (k, m) :: rest => if k.same key then (k, n) :: rest else (k, m) :: putEntry key n rest

/-- Merges into a mapping what it names. -/
def mergeInto (n : Nat) : M Unit := do
  let s ← get
  match (Merging.absorb (Merging.fuelFor s.nodes) n).run s.nodes with
  | .ok ((), nodes) => set { s with nodes }
  | .error d => fail d

/-- The entries of a mapping into which everything is merged. -/
def entriesAt (n : Nat) : M (List (Scalar × Nat)) := do
  match (← nodeAt n).content with
  | .mapping _ =>
    mergeInto n
    let es ← match (← nodeAt n).content with
      | .mapping es => pure es
      | _ => pure []
    let es ← es.mapM fun (k, v) => do
      let key ← meetKey k
      let _ ← meet v
      return (key, v)
    return es.foldl (fun done (k, v) => putEntry k v done) []
  | _ => fail .wrongKind

/-- The items of a list of pairs, each a mapping with one entry. -/
def rowsAt (n : Nat) : M (List (Nat × Nat)) := do
  match (← nodeAt n).content with
  | .list items =>
    items.mapM fun item => do
      match (← nodeAt item).content with
      | .mapping [(k, v)] =>
        let _ ← meet k
        let _ ← meet v
        return (k, v)
      | _ => fail .wrongKind
  | _ => fail .wrongKind

def itemsAt (n : Nat) : M (List Nat) := do
  match (← nodeAt n).content with
  | .list items =>
    items.forM fun item => do
      let _ ← meet item
    return items
  | _ => fail .wrongKind

/-- The parts of a node that has some. -/
def partsAt (n : Nat) : M Part := do
  match (← nodeAt n).kind with
  | .mapping => return .object (← entriesAt n)
  | .set => return .set (Members.inOrder ((← entriesAt n).map Prod.fst))
  | .orderedMapping | .pairs => return .rows (← rowsAt n)
  | _ => return .list (← itemsAt n)

/-- The parts of all nodes that have been met, from the one at `place` on. -/
def complete : (fuel : Nat) → (place : Nat) → M Unit
  | 0, _ => return
  | fuel + 1, place => do
    match (← get).met[place]? with
    | none => return
    | some n =>
      setKnown n (← partsAt n)
      complete fuel (place + 1)

end PartFinder

/-- What the values of a document's nodes are made of. No node is met twice, so that their number
bounds the work. -/
def Document.parts (d : Document) : Except Failure (Array (Option Part)) := do
  let s : PartFinder :=
    { nodes := d.nodes, known := Array.replicate d.nodes.size none, met := #[] }
  let find : PartFinder.M Unit := do
    let _ ← PartFinder.meet d.root
    PartFinder.complete (d.nodes.size + 1) 0
  let ((), s) ← find.run s
  return s.known

end ApiOutline.Yaml
