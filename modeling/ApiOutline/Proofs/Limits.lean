/-
Values that can be written and copied.

Whether a value can be written is found out from the front, part by part, so that of several
reasons why it cannot the first one counts. Whether it can does not depend on the order: it has to
have room for its levels, and every integer in it has to be short (`checkText_eq_ok_iff`). The
induction is over a value at any depth, since what is left of the room shrinks with every level.
-/
import ApiOutline.Limits
import ApiOutline.Proofs.Outcome

set_option autoImplicit false

namespace ApiOutline

open Outcome

/-- There is room for calls exactly up to the limit. It is the only place where the limit is
looked at. -/
theorem checkRoom_eq_ok_iff {calls : Nat} : checkRoom calls = .ok () ↔ calls ≤ callRoom := by
  rw [checkRoom]
  split
  · next hroom => exact iff_of_true rfl hroom
  · next hroom => exact iff_of_false (by rintro ⟨⟩) hroom

/-- The integers that a scalar is: itself, or none. -/
def Scalar.integers : Scalar → List Int
  | .int n => [n]
  | _ => []

/-- Has an integer few enough digits to be written? -/
def IsShort (n : Int) : Prop := n.natAbs < digitBound

/-- A scalar can be written exactly if it is no integer with too many digits. For all others there
is nothing to show. -/
theorem Scalar.checkText_eq_ok_iff {s : Scalar} :
    s.checkText = .ok () ↔ ∀ n ∈ s.integers, IsShort n := by
  cases s with
  | int n =>
    rw [integers, List.forall_mem_singleton, checkText]
    -- the bound is the one that the check looks at
    by_cases hshort : n.natAbs < digitBound
    · rw [if_pos hshort]
      exact iff_of_true rfl hshort
    · rw [if_neg hshort]
      exact iff_of_false (by rintro ⟨⟩) hshort
  | null | bool | float | str | bytes | date | moment =>
    exact iff_of_true rfl fun _ hn => absurd hn List.not_mem_nil

namespace Value

/-! ## What makes a value too large -/

mutual

/-- How many calls it takes to write a value, each inside the one before. -/
def textCalls : Value → Nat
  | .scalar _ => 1
  | .again _ => 1
  | .list xs => textCallsOfItems xs + 1
  | .tuple xs => textCallsOfItems xs + 1
  | .set [] => 1
  | .set (_ :: _) => 2
  | .object es => textCallsOfEntries es + 1

def textCallsOfItems : List Value → Nat
  | [] => 0
  | v :: rest => max (textCalls v) (textCallsOfItems rest)

def textCallsOfEntries : List (Scalar × Value) → Nat
  | [] => 0
  | (_, v) :: rest => max (textCalls v) (textCallsOfEntries rest)

end

mutual

/-- The integers that are written with a value, keys among them. What is met again is not. -/
def integers : Value → List Int
  | .scalar s => s.integers
  | .again _ => []
  | .list xs => integersOfItems xs
  | .tuple xs => integersOfItems xs
  | .set ms => ms.flatMap Scalar.integers
  | .object es => integersOfEntries es

def integersOfItems : List Value → List Int
  | [] => []
  | v :: rest => integers v ++ integersOfItems rest

def integersOfEntries : List (Scalar × Value) → List Int
  | [] => []
  | (k, v) :: rest => k.integers ++ (integers v ++ integersOfEntries rest)

end

/-- Writing a value takes a call, whatever the value. So a level costs something, and the items of
an empty list, which need no room, can be told from all others. -/
theorem textCalls_pos (v : Value) : 1 ≤ textCalls v := by
  cases v with
  | scalar | again => exact Nat.le_refl 1
  | list | tuple | object => exact Nat.le_add_left 1 _
  | set ms =>
    cases ms with
    | nil => exact Nat.le_refl 1
    | cons m ms => exact Nat.le_succ 1

/-- A value that has a text: there is room for its levels, and its integers are short. -/
structure Writable (v : Value) : Prop where
  shallow : textCalls v.opened ≤ callRoom
  short : ∀ n ∈ integers v.opened, IsShort n

/-! ## A value is written part by part -/

/-- Two checks in sequence pass if both do. -/
theorem check_bind_eq_ok_iff {x y : Except Fault Unit} {p q : Prop} (hx : x = .ok () ↔ p)
    (hy : y = .ok () ↔ q) : (do x; y) = .ok () ↔ p ∧ q := by
  rw [bind_eq_ok_iff, ← hx, ← hy]
  exact ⟨fun ⟨_, h, h'⟩ => ⟨h, h'⟩, fun ⟨h, h'⟩ => ⟨(), h, h'⟩⟩

/-- The members of a set are scalars, which need room for one more call if there are any, and have
to be short. -/
theorem checkTextMembers_eq_ok_iff (calls : Nat) (ms : List Scalar) :
    checkTextMembers calls ms = .ok () ↔
      (ms ≠ [] → calls ≤ callRoom) ∧ ∀ n ∈ ms.flatMap Scalar.integers, IsShort n := by
  induction ms with
  | nil => exact ⟨fun _ => ⟨fun h => absurd rfl h, fun _ hn => (nomatch hn)⟩, fun _ => rfl⟩
  | cons m ms ih =>
    rw [checkTextMembers,
      check_bind_eq_ok_iff checkRoom_eq_ok_iff
        (check_bind_eq_ok_iff Scalar.checkText_eq_ok_iff ih),
      List.flatMap_cons, List.forall_mem_append]
    constructor
    · rintro ⟨hroom, hm, -, hms⟩
      exact ⟨fun _ => hroom, hm, hms⟩
    · rintro ⟨hroom, hm, hms⟩
      have hroom := hroom (List.cons_ne_nil m ms)
      exact ⟨hroom, hm, fun _ => hroom, hms⟩

mutual

/-- **With so many calls open, a value can be written exactly if the levels below it fit into the
rest of the room and the integers in it are short.** The order in which its parts are written is
gone: which part fails first makes no difference to whether one does. -/
theorem checkTextAt_eq_ok_iff (calls : Nat) : ∀ v : Value, checkTextAt calls v = .ok () ↔
    calls + textCalls v ≤ callRoom + 1 ∧ ∀ n ∈ integers v, IsShort n
  | .scalar s => by
    rw [checkTextAt, check_bind_eq_ok_iff checkRoom_eq_ok_iff Scalar.checkText_eq_ok_iff, textCalls,
      integers, Nat.add_le_add_iff_right]
  | .again v => by
    rw [checkTextAt, checkRoom_eq_ok_iff, textCalls, integers, Nat.add_le_add_iff_right]
    exact ⟨fun h => ⟨h, fun _ hn => (nomatch hn)⟩, And.left⟩
  | .list xs => by
    rw [checkTextAt, check_bind_eq_ok_iff checkRoom_eq_ok_iff
      (checkTextItems_eq_ok_iff (calls + 1) xs), textCalls, integers, ← and_assoc]
    refine and_congr_left fun _ => ?_
    omega
  | .tuple xs => by
    rw [checkTextAt, check_bind_eq_ok_iff checkRoom_eq_ok_iff
      (checkTextItems_eq_ok_iff (calls + 1) xs), textCalls, integers, ← and_assoc]
    refine and_congr_left fun _ => ?_
    omega
  | .set ms => by
    rw [checkTextAt, check_bind_eq_ok_iff checkRoom_eq_ok_iff
      (checkTextMembers_eq_ok_iff (calls + 1) ms), integers, ← and_assoc]
    refine and_congr_left fun _ => ?_
    -- the empty set is written without looking inside
    cases ms with
    | nil =>
      rw [textCalls, Nat.add_le_add_iff_right]
      exact ⟨And.left, fun h => ⟨h, fun hne => absurd rfl hne⟩⟩
    | cons m ms =>
      rw [textCalls]
      exact ⟨fun h => Nat.succ_le_succ (h.2 (List.cons_ne_nil m ms)),
        fun h => ⟨by omega, fun _ => by omega⟩⟩
  | .object es => by
    rw [checkTextAt, check_bind_eq_ok_iff checkRoom_eq_ok_iff
      (checkTextEntries_eq_ok_iff (calls + 1) es), textCalls, integers, ← and_assoc]
    refine and_congr_left fun _ => ?_
    omega

/-- The items of a list stand side by side, so the deepest of them decides about the room, while
the integers of all have to be short. No items need no room. -/
theorem checkTextItems_eq_ok_iff (calls : Nat) : ∀ xs : List Value,
    checkTextItems calls xs = .ok () ↔
      (0 < textCallsOfItems xs → calls + textCallsOfItems xs ≤ callRoom + 1) ∧
        ∀ n ∈ integersOfItems xs, IsShort n
  | [] => ⟨fun _ => ⟨fun h => absurd h (Nat.lt_irrefl 0), fun _ hn => (nomatch hn)⟩, fun _ => rfl⟩
  | v :: rest => by
    rw [checkTextItems, check_bind_eq_ok_iff (checkTextAt_eq_ok_iff calls v)
      (checkTextItems_eq_ok_iff calls rest), textCallsOfItems, integersOfItems,
      List.forall_mem_append, and_and_and_comm]
    refine and_congr_left fun _ => ?_
    -- there is an item now, so the condition on the room is no longer empty
    have hpos := textCalls_pos v
    omega

/-- The entries of an object are written key by key, each key before its value. A key is a scalar,
which takes no more room than the value beside it. -/
theorem checkTextEntries_eq_ok_iff (calls : Nat) : ∀ es : List (Scalar × Value),
    checkTextEntries calls es = .ok () ↔
      (0 < textCallsOfEntries es → calls + textCallsOfEntries es ≤ callRoom + 1) ∧
        ∀ n ∈ integersOfEntries es, IsShort n
  | [] => ⟨fun _ => ⟨fun h => absurd h (Nat.lt_irrefl 0), fun _ hn => (nomatch hn)⟩, fun _ => rfl⟩
  | (k, v) :: rest => by
    rw [checkTextEntries, check_bind_eq_ok_iff checkRoom_eq_ok_iff
      (check_bind_eq_ok_iff Scalar.checkText_eq_ok_iff
        (check_bind_eq_ok_iff (checkTextAt_eq_ok_iff calls v)
          (checkTextEntries_eq_ok_iff calls rest))),
      textCallsOfEntries, integersOfEntries, List.forall_mem_append, List.forall_mem_append]
    have hpos := textCalls_pos v
    -- a key stands where its value stands, so it needs no room of its own
    constructor
    · rintro ⟨hroom, hk, ⟨hv, hvs⟩, hrest, hrests⟩
      exact ⟨fun _ => by omega, hk, hvs, hrests⟩
    · rintro ⟨hroom, hk, hvs, hrests⟩
      exact ⟨by omega, hk, ⟨by omega, hvs⟩, fun _ => by omega, hrests⟩

end

/-- **A value can be written exactly if it has few levels and short integers.** -/
theorem checkText_eq_ok_iff {v : Value} : v.checkText = .ok () ↔ v.Writable := by
  rw [checkText, checkTextAt_eq_ok_iff, Nat.add_comm 1, Nat.add_le_add_iff_right]
  exact ⟨fun h => ⟨h.1, h.2⟩, fun h => ⟨h.shallow, h.short⟩⟩

/-- Texts can always be written. -/
theorem checkTexts_texts (texts : List String) : checkTexts (texts.map .str) = .ok () := by
  induction texts with
  | nil => rfl
  | cons text texts ih => rw [List.map_cons, checkTexts, checkText_str, ok_bind, ih]

end Value

end ApiOutline
