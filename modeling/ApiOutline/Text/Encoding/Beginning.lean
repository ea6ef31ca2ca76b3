/-
Reading octets from the front.

An encoding in which characters take different numbers of octets is told by what it finds at the
front of some octets: characters and how far they go, nothing that it knows, or a character that
the end cuts off. The rest is the same for all of them: what has been read is left behind, an octet
that stands for nothing becomes a replacement character, and so does what is cut off. Only a few
octets can be waiting for more, though.
-/
import ApiOutline.Text.Encoding.Wide

set_option autoImplicit false

namespace ApiOutline.Text

/-- What some octets begin with. -/
inductive Beginning where
  /-- Characters, and how many octets they take beside the first one. -/
  | characters (cs : List Char) (more : Nat)
  /-- Nothing, and how many octets are passed over beside the first one. -/
  | nothing (more : Nat)
  /-- Part of a character. -/
  | part
  deriving DecidableEq, Repr

/-- A character, if there is one. -/
def Beginning.ofCharacter (c : Option Char) (more : Nat) : Beginning :=
  match c with
  | some c => .characters [c] more
  | none => .nothing 0

/-- How many octets can be part of a character. -/
def waitingLimit : Nat := 8

/-- The characters of octets, by what stands at the front in a state and the state behind it. None
if too many octets are left as a part. -/
def charactersBy? {State : Type} (front : State → Nat → List Nat → Beginning × State) :
    State → List Nat → Option (List Char)
  | _, [] => some []
  | state, a :: rest =>
    match front state a rest with
    | (.characters cs more, next) => (charactersBy? front next (rest.drop more)).map (cs ++ ·)
    | (.nothing more, next) => (charactersBy? front next (rest.drop more)).map (replacement :: ·)
    | (.part, _) => if waitingLimit ≤ rest.length then none else some [replacement]
termination_by _ octets => octets.length
decreasing_by all_goals simp only [List.length_drop, List.length_cons]; omega

/-- The characters of octets that begin with ASCII or with something larger. -/
def charactersBeyondAscii? (front : Nat → List Nat → Beginning) (octets : List Nat) :
    Option (List Char) :=
  charactersBy?
    (fun (_ : Unit) a rest =>
      (if a < 0x80 then .characters [Char.ofNat a] 0 else front a rest, ()))
    () octets

end ApiOutline.Text
