/-
Taking a document apart.

Each function here asks a value one question and says what becomes of the work when the value
cannot answer. The questions differ in how they fail: a value without fields fails as one without
the operation, a value that cannot be measured, indexed or walked through fails as one of the
wrong type, and an object without the entry fails on the key. Texts can be measured, indexed and
walked through, character by character, and an object is walked through by its keys.
-/
import ApiOutline.Fault
import ApiOutline.Text.Cut

set_option autoImplicit false

namespace ApiOutline.Value

/-- What stands in a field, null if nothing does. Only objects have fields. -/
def fieldAt (key : Scalar) (v : Value) : Except Fault Value :=
  match v.opened with
  | .object es => .ok ((lookup key es).getD .null)
  | _ => .error .noSuchOperation

/-- What stands in the field of that name, null if nothing does. -/
def field (name : String) (v : Value) : Except Fault Value :=
  v.fieldAt (.str name)

/-- The entry of that name, which has to be there. -/
def entry (name : String) (v : Value) : Except Fault Value :=
  match v.opened with
  | .object es =>
    match lookup (.str name) es with
    | some v => .ok v
    | none => .error (.missingKey (.str name))
  | _ => .error .wrongType

/-- The entries of an object. -/
def entries (v : Value) : Except Fault (List (Scalar × Value)) :=
  match v.opened with
  | .object es => .ok es
  | _ => .error .noSuchOperation

/-- The characters of a text, each as a text. -/
def characters (s : String) : List Value :=
  s.toList.map fun c => .str (String.ofList [c])

/-- What a value is made of: the items of a list or a row, the members of a set, the keys of an
object, the characters of a text, the numbers of octets. -/
def elements (v : Value) : Except Fault (List Value) :=
  match v.opened with
  | .list xs => .ok xs
  | .tuple xs => .ok xs
  | .set ms => .ok (ms.map .scalar)
  | .object es => .ok (es.map fun (k, _) => .scalar k)
  | .scalar (.str s) => .ok (characters s)
  | .scalar (.bytes bs) => .ok (bs.map fun b => .int b.toNat)
  | _ => .error .wrongType

/-- How many elements a value has. -/
def size (v : Value) : Except Fault Nat :=
  v.elements.map List.length

/-- The element at the front. Of an object it is what stands under the key zero; a set has no
front. -/
def first (v : Value) : Except Fault Value :=
  match v.opened with
  | .object es =>
    match lookup (.int 0) es with
    | some v => .ok v
    | none => .error (.missingKey (.int 0))
  | .set _ => .error .wrongType
  | v => do
    match ← v.elements with
    | [] => .error .outOfRange
    | x :: _ => .ok x

mutual

/-- Can a value be looked up? Lists, sets and objects cannot, and neither can rows of them. -/
def isKey : Value → Bool
  | .scalar _ => true
  | .tuple xs => areKeys xs
  | _ => false

def areKeys : List Value → Bool
  | [] => true
  | v :: rest => isKey v && areKeys rest

end

/-- The value as a key. A row can be looked up, but nothing is ever filed under one. -/
def asKey (v : Value) : Except Fault (Option Scalar) :=
  match v with
  | .scalar s => .ok (some s)
  | v => if v.isKey then .ok none else .error .wrongType

/-- The text itself, for an operation on texts. Octets have such operations, but not with texts. -/
def asText : Value → Except Fault String
  | .scalar (.str s) => .ok s
  | .scalar (.bytes _) => .error .wrongType
  | _ => .error .noSuchOperation

/-- The text itself, for a search in it. -/
def searchable : Value → Except Fault String
  | .scalar (.str s) => .ok s
  | _ => .error .wrongType

/-- Is `needle` among the elements of a value? In a text any part counts. -/
def containsText (needle : String) (v : Value) : Except Fault Bool :=
  match v.opened with
  | .scalar (.str s) => .ok (Text.occursIn needle.toList s.toList)
  | .scalar (.bytes _) => .error .wrongType
  | .list xs => .ok (xs.any fun x => x.same (.str needle))
  | .tuple xs => .ok (xs.any fun x => x.same (.str needle))
  | .set ms => .ok (ms.any fun m => m.same (.str needle))
  | .object es => .ok (lookup (.str needle) es).isSome
  | _ => .error .wrongType

/-- The entries of an object that is known to be one. -/
abbrev Entries := List (Scalar × Value)

/-- What stands under a name, null if nothing does. -/
def Entries.get (es : Entries) (name : String) : Value :=
  (lookup (.str name) es).getD .null

/-- The entries with a value under a name. -/
def Entries.set (es : Entries) (name : String) (v : Value) : Entries :=
  put (.str name) v es

/-- The entries with a value under a name that had none. -/
def Entries.setNew (es : Entries) (name : String) (v : Value) : Entries :=
  match lookup (.str name) es with
  | some _ => es
  | none => es.set name v

@[simp] theorem field_object (name : String) (es : List (Scalar × Value)) :
    field name (.object es) = .ok (Entries.get es name) := rfl

@[simp] theorem entries_object (es : List (Scalar × Value)) :
    entries (.object es) = .ok es := rfl

@[simp] theorem elements_list (xs : List Value) : elements (.list xs) = .ok xs := rfl

end ApiOutline.Value
