/-
The values of a document.

A description of an API is a tree of objects, lists and scalars. Objects keep the order in which
their entries were written, because the outline follows it, and their keys may be any scalar,
because one of the two document languages allows that. Integers have no bound and are distinct
from numbers with a fraction; days and moments are scalars of their own. That language also knows
rows, sets, and values that contain themselves; of the latter a tree holds as much as anyone asks
for.

Besides the type this module holds the notions that every consumer shares: when two values are
the same, when a value counts as absent or empty, and what an object holds under a key.
-/
import ApiOutline.Calendar

set_option autoImplicit false

namespace ApiOutline

/-- A value without parts. Only these can be keys. -/
inductive Scalar where
  | null
  | bool (b : Bool)
  | int (n : Int)
  | float (x : Binary64)
  | str (s : String)
  | bytes (octets : List UInt8)
  | date (d : Date)
  | moment (m : Moment)
  deriving DecidableEq, Repr

/-- A document, or a part of one. -/
inductive Value where
  | scalar (s : Scalar)
  | list (items : List Value)
  /-- A fixed number of values that belong together, such as a key and what goes with it. -/
  | tuple (items : List Value)
  /-- Members without an order that means anything. -/
  | set (members : List Scalar)
  | object (entries : List (Scalar × Value))
  /-- A list or an object met again inside itself. -/
  | again (v : Value)

namespace Value

@[match_pattern] abbrev null : Value := .scalar .null
@[match_pattern] abbrev bool (b : Bool) : Value := .scalar (.bool b)
@[match_pattern] abbrev int (n : Int) : Value := .scalar (.int n)
@[match_pattern] abbrev float (x : Binary64) : Value := .scalar (.float x)
@[match_pattern] abbrev str (s : String) : Value := .scalar (.str s)
@[match_pattern] abbrev bytes (octets : List UInt8) : Value := .scalar (.bytes octets)
@[match_pattern] abbrev date (d : Date) : Value := .scalar (.date d)
@[match_pattern] abbrev moment (m : Moment) : Value := .scalar (.moment m)

instance : Inhabited Value := ⟨.null⟩

end Value

/-! ## Sameness -/

namespace Scalar

/-- The integer that a scalar stands for in a comparison: truth values count as one and zero. -/
def asInt? : Scalar → Option Int
  | .bool b => some (if b then 1 else 0)
  | .int n => some n
  | .float x => x.toInt?
  | _ => none

/-- Sameness of scalars. Numbers are compared by what they are worth, so that `1`, `1.0` and true
are one key; texts, octets and days only equal their like. There is one float that is no number,
and it is the same as itself. -/
def same (a b : Scalar) : Bool :=
  match a, b with
  | .float .nan, .float .nan => true
  | .float x, .float y => x.equals y
  | .moment x, .moment y => x.same y
  | a, b =>
    match a.asInt?, b.asInt? with
    | some x, some y => x == y
    | none, none => a == b
    | _, _ => false

theorem same_str (a b : String) : same (.str a) (.str b) = decide (a = b) := by
  by_cases h : a = b <;> simp [same, asInt?, h]

end Scalar

namespace Value

/-- The first entry under a key, by sameness of keys. -/
def lookup (key : Scalar) : List (Scalar × Value) → Option Value
  | [] => none
  | (k, v) :: rest => if k.same key then some v else lookup key rest

/-- The entries without the first one under a key, and what stood there. -/
def extract (key : Scalar) : List (Scalar × Value) → Option (Value × List (Scalar × Value))
  | [] => none
  | (k, v) :: rest =>
    if k.same key then some (v, rest)
    else (extract key rest).map fun (w, others) => (w, (k, v) :: others)

mutual

/-- Sameness of values: lists item by item, objects as mappings, in whatever order their entries
were written. -/
def same : Value → Value → Bool
  | .scalar a, .scalar b => a.same b
  | .list xs, .list ys => sameItems xs ys
  | .tuple xs, .tuple ys => sameItems xs ys
  | .set xs, .set ys => xs.length == ys.length && xs.all fun x => ys.any x.same
  | .again v, .again w => same v w
  | .object es, .object fs => es.length == fs.length && sameEntries es fs
  | _, _ => false

def sameItems : List Value → List Value → Bool
  | [], [] => true
  | x :: xs, y :: ys => same x y && sameItems xs ys
  | _, _ => false

def sameEntries : List (Scalar × Value) → List (Scalar × Value) → Bool
  | [], _ => true
  | (k, v) :: rest, fs =>
    (match lookup k fs with
      | some w => same v w
      | none => false) && sameEntries rest fs

end

/-! ## Emptiness -/

/-- Does a value count as present? Null, false, zero and everything empty do not. -/
def truthy : Value → Bool
  | .scalar .null => false
  | .scalar (.bool b) => b
  | .scalar (.int n) => n != 0
  | .scalar (.float x) => !x.isZero
  | .scalar (.str s) => s != ""
  | .scalar (.bytes bs) => !bs.isEmpty
  | .scalar (.date _) => true
  | .scalar (.moment _) => true
  | .list xs => !xs.isEmpty
  | .tuple xs => !xs.isEmpty
  | .set ms => !ms.isEmpty
  | .object es => !es.isEmpty
  | .again _ => true

/-- The value, or `other` where it counts as absent. -/
def orElse (v other : Value) : Value :=
  if v.truthy then v else other

/-- Is the value null? -/
def isNull : Value → Bool
  | .scalar .null => true
  | _ => false

/-- A value as if it had not been met before. -/
def opened : Value → Value
  | .again v => v
  | v => v

/-! ## Building objects -/

/-- An object with text keys. -/
def ofFields (fields : List (String × Value)) : Value :=
  .object (fields.map fun (k, v) => (.str k, v))

/-- Entries with `value` under `key`: in the place of an entry with the same key, which keeps its
own spelling, or at the end. -/
def put (key : Scalar) (value : Value) : List (Scalar × Value) → List (Scalar × Value)
  | [] => [(key, value)]
  | (k, v) :: rest => if k.same key then (k, value) :: rest else (k, v) :: put key value rest

/-- Entries as if they had been put one after the other: a repeated key keeps the place of the
first and has the value of the last. -/
def ofEntries (entries : List (Scalar × Value)) : List (Scalar × Value) :=
  entries.foldl (fun es (k, v) => put k v es) []

end Value

end ApiOutline
