/-
The order of members.

The members of a set have no order of their own, but they have to be written in some. They are put
into places, of which there are more than twice as many, and are written place by place. A whole
number asks for the place of its remainder. If that is taken it asks for some of those behind it,
and then for others, farther and farther away. For other members no order is better than the one
in which they came.
-/
import ApiOutline.Value.Basic

set_option autoImplicit false

namespace ApiOutline.Members

/-- How many places there are for so many members: a power of two. -/
def placeCount (members : Nat) : Nat :=
  if members ≤ 4 then 8 else Nat.pow 2 (Nat.log2 (2 * members) + 1)

/-- By what a whole number is placed. Very large ones are reduced, and `-1` is not in use. -/
def placing? : Scalar → Option Nat
  | .bool b => some b.toNat
  | .int n =>
    let reduced := n.tmod (Nat.pow 2 61 - 1)
    some ((if reduced = -1 then -2 else reduced).emod (Nat.pow 2 64)).toNat
  | _ => none

/-- How many places behind the first one are asked for, if there are as many. -/
def behind : Nat := 9

/-- The places for which a member asks, one after the other: from one on, while something that gets
smaller tells how far away the next one is. -/
def asked (places : Nat) : (rounds start distance : Nat) → List Nat
  | 0, _, _ => []
  | rounds + 1, start, distance =>
    let near := if start + behind < places then List.range' start (behind + 1) else [start]
    let farther := distance / 32
    near ++ asked places rounds ((start * 5 + 1 + farther) % places) farther

/-- The place that a member gets when some are taken. When there is nothing left that gets smaller
every place is asked for. -/
def placeAmong (places : Nat) (taken : List Nat) (n : Nat) : Nat :=
  ((asked places (places + 16) (n % places) n).find? fun p => !taken.contains p).getD 0

/-- The places of numbers that come one after the other. -/
def placesOf (places : Nat) : (taken : List Nat) → List Nat → List Nat
  | _, [] => []
  | taken, n :: rest =>
    let p := placeAmong places taken n
    p :: placesOf places (p :: taken) rest

/-- Members, place by place if they are whole numbers. -/
def inOrder (members : List Scalar) : List Scalar :=
  match members.mapM placing? with
  | none => members
  | some numbers =>
    let places := placesOf (placeCount members.length) [] numbers
    ((places.zip members).mergeSort fun a b => a.1 ≤ b.1).map Prod.snd

end ApiOutline.Members
