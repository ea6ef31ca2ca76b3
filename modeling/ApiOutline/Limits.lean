/-
What a value is too large for.

Two things are done with values that come as they please. They are written as texts, and nodes are
copied before anything is derived from them. Either can fail for a value that is perfectly good
otherwise: an integer is written with so many digits and no more, and what is inside a value is
gone through by calls inside calls, of which so many may be open at once and no more. What comes
first counts: a value is written from the front.

What a refusal is for is written too, when the refusal is made. So it takes a value that can be
written to be refused.
-/
import ApiOutline.Fault

set_option autoImplicit false

namespace ApiOutline

/-- The calls that may be open at once when a value is gone through. It is what is left of a
thousand after those that lead there, which are sixteen or fewer. -/
def callRoom : Nat := 984

/-- Is there room for so many calls? -/
def checkRoom (calls : Nat) : Except Fault Unit :=
  if calls ≤ callRoom then .ok () else .error .tooNested

/-! ## Writing -/

/-- The least number with more digits than are written. -/
def digitBound : Nat := Nat.pow 10 Fault.digitLimit

/-- Can a scalar be written? Integers of too many digits cannot, in whatever base they were read. -/
def Scalar.checkText : Scalar → Except Fault Unit
  | .int n => if n.natAbs < digitBound then .ok () else .error .unwritable
  | _ => .ok ()

namespace Value

mutual

/-- Can a value be written inside others, of which each is a call? -/
def checkTextAt (calls : Nat) : Value → Except Fault Unit
  | .scalar s => do
    checkRoom calls
    s.checkText
  | .list xs => do
    checkRoom calls
    checkTextItems (calls + 1) xs
  | .tuple xs => do
    checkRoom calls
    checkTextItems (calls + 1) xs
  | .set ms => do
    checkRoom calls
    checkTextMembers (calls + 1) ms
  | .object es => do
    checkRoom calls
    checkTextEntries (calls + 1) es
  | .again _ => checkRoom calls

def checkTextItems (calls : Nat) : List Value → Except Fault Unit
  | [] => .ok ()
  | v :: rest => do
    checkTextAt calls v
    checkTextItems calls rest

def checkTextMembers (calls : Nat) : List Scalar → Except Fault Unit
  | [] => .ok ()
  | s :: rest => do
    checkRoom calls
    s.checkText
    checkTextMembers calls rest

def checkTextEntries (calls : Nat) : List (Scalar × Value) → Except Fault Unit
  | [] => .ok ()
  | (k, v) :: rest => do
    checkRoom calls
    k.checkText
    checkTextAt calls v
    checkTextEntries calls rest

end

/-- Can a value be written? If so, `text` and `literal` are what it is written as. -/
def checkText (v : Value) : Except Fault Unit :=
  checkTextAt 1 v.opened

/-- Can all of these values be written? -/
def checkTexts : List Value → Except Fault Unit
  | [] => .ok ()
  | v :: rest => do
    v.checkText
    checkTexts rest

@[simp] theorem checkText_str (s : String) : (Value.str s).checkText = .ok () := rfl

/-! ## Copying -/

mutual

/-- The calls that are open at once when a value is copied: two for every level, three for a row,
two for what has no parts. Where a value is met again its copy is there already. -/
def copyCalls : Value → Nat
  | .scalar _ => 2
  | .set _ => 2
  | .again _ => 1
  | .list xs => 2 + copyCallsOfItems xs
  | .tuple xs => 3 + copyCallsOfItems xs
  | .object es => 2 + copyCallsOfEntries es

def copyCallsOfItems : List Value → Nat
  | [] => 0
  | v :: rest => max (copyCalls v) (copyCallsOfItems rest)

/-- Keys are copied as well, at the cost of a value without parts. -/
def copyCallsOfEntries : List (Scalar × Value) → Nat
  | [] => 0
  | (_, v) :: rest => max (max 2 (copyCalls v)) (copyCallsOfEntries rest)

end

/-- Can a value be copied? If so, the copy is the value. -/
def checkCopy (v : Value) : Except Fault Unit :=
  checkRoom v.opened.copyCalls

end Value

/-! ## Refusing -/

/-- Can the values be written that the words of a refusal name? Those of a caller's own are not
put into words before someone asks. -/
def Refusal.checkText : Refusal → Except Fault Unit
  | .decoderNotFound version | .unsupportedVersion version => version.checkText
  | .unresolvedReference target place => do
    target.checkText
    if place.truthy then place.checkText
  | .invalidMethodName name => name.checkText
  | .unspecified _ => .ok ()

/-- What making a refusal ends in: the refusal, if its words can be formed. -/
def Refusal.raised (reason : Refusal) : Fault :=
  match reason.checkText with
  | .ok () => .refused reason
  | .error f => f

end ApiOutline
