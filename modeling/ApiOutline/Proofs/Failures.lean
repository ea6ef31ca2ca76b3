/-
How a value fails.

A document is taken apart by asking values questions, and there are eleven of them. A value that
cannot answer is of the wrong kind or lacks the part that is asked for, so a failure is one of four
faults in the shape of the document, whatever was asked (`failsAs_ask`). To be written or copied a
value has to be small enough, and where it is not, that is the fault (`failsAs_checkText`).

None of these is a refusal. Whatever is only made of questions and checks can therefore not be
refused, and nothing more has to be known about it.
-/
import ApiOutline.Value.Access
import ApiOutline.Proofs.Outcome
import ApiOutline.Limits

set_option autoImplicit false

namespace ApiOutline

namespace Fault

/-- Is a fault one in the shape of a document: a key that is missing, an element that is not there,
or a value of another kind than the one that is needed? -/
def isShape : Fault → Bool
  | .missingKey _ | .outOfRange | .noSuchOperation | .wrongType => true
  | _ => false

/-- Is a fault one of size: too many digits, or too many levels? -/
def isSize : Fault → Bool
  | .unwritable | .tooNested => true
  | _ => false

end Fault

/-- If a computation fails, it is with such a fault. -/
def FailsAs {α : Type} (P : Fault → Prop) (x : Except Fault α) : Prop :=
  ∀ f, x = .error f → P f

section FailsAs

variable {P : Fault → Prop} {α β : Type}

/-- A computation with a result does not fail, so its failures are of any kind one likes. -/
theorem failsAs_ok (a : α) : FailsAs P (.ok a : Except Fault α) := fun _ h => nomatch h

/-- A failure is of a kind if its fault is. -/
theorem failsAs_error {f : Fault} (h : P f) : FailsAs P (.error f : Except Fault α) := by
  intro g hg
  rwa [← Except.error.inj hg]

/-- Two computations one after the other fail as their parts do, whatever is handed from the first
to the second. -/
theorem FailsAs.bind {x : Except Fault α} {f : α → Except Fault β} (hx : FailsAs P x)
    (hf : ∀ a, FailsAs P (f a)) : FailsAs P (x >>= f) := by
  cases x with
  | error e => exact failsAs_error (hx e rfl)
  | ok a => exact hf a

end FailsAs

/-! ## Questions -/

namespace Value

/-- The questions that can be asked of a value, by what an answer is. -/
inductive Question : Type → Type where
  | fieldAt (key : Scalar) : Question Value
  | field (name : String) : Question Value
  | entry (name : String) : Question Value
  | entries : Question (List (Scalar × Value))
  | elements : Question (List Value)
  | size : Question Nat
  | first : Question Value
  | asKey : Question (Option Scalar)
  | asText : Question String
  | searchable : Question String
  | containsText (needle : String) : Question Bool

/-- What a value answers. -/
def Question.ask {α : Type} : Question α → Value → Except Fault α
  | .fieldAt key, v => v.fieldAt key
  | .field name, v => v.field name
  | .entry name, v => v.entry name
  | .entries, v => v.entries
  | .elements, v => v.elements
  | .size, v => v.size
  | .first, v => v.first
  | .asKey, v => v.asKey
  | .asText, v => v.asText
  | .searchable, v => v.searchable
  | .containsText needle, v => v.containsText needle

/-- The first element is asked for in three ways: of an object by a key, of what has no order not
at all, and of a row by its place. Each of them has one fault. -/
theorem failsAs_first (v : Value) (h : FailsAs (·.isShape = true) v.opened.elements) :
    FailsAs (·.isShape = true) v.first := by
  unfold first
  split
  · split
    · exact failsAs_ok _
    · exact failsAs_error rfl
  · exact failsAs_error rfl
  · refine h.bind fun xs => ?_
    cases xs with
    | nil => exact failsAs_error rfl
    | cons x rest => exact failsAs_ok x

/-- **A value that cannot answer is in the wrong shape.** This is the only way for a question to
fail, whichever it is. -/
theorem failsAs_ask {α : Type} (q : Question α) (v : Value) :
    FailsAs (·.isShape = true) (q.ask v) := by
  -- the elements are asked for by three of the questions
  have helements : ∀ v : Value, FailsAs (·.isShape = true) v.elements := by
    intro v
    unfold elements
    split <;> first | exact failsAs_ok _ | exact failsAs_error rfl
  cases q with
  | elements => exact helements v
  | size => exact (helements v).bind fun xs => failsAs_ok xs.length
  | first => exact failsAs_first v (helements v.opened)
  | fieldAt | field | entry | entries | asKey | asText | searchable | containsText =>
    -- the others are answered at once, by the kind of the value and what it has under a key
    simp only [Question.ask, field, fieldAt, entry, entries, asKey, asText, searchable,
      containsText]
    split <;> (try split) <;> first | exact failsAs_ok _ | exact failsAs_error rfl

/-! ## Sizes -/

section Sizes

variable {calls : Nat}

/-- Where there is no room for so many calls it is the number of levels that is too large. -/
theorem failsAs_checkRoom : FailsAs (·.isSize = true) (checkRoom calls) := by
  unfold checkRoom
  split
  · exact failsAs_ok ()
  · exact failsAs_error rfl

/-- Of the scalars only an integer can fail to be written, and then it has too many digits. -/
theorem failsAs_scalar (s : Scalar) : FailsAs (·.isSize = true) s.checkText := by
  unfold Scalar.checkText
  split
  · split
    · exact failsAs_ok ()
    · exact failsAs_error rfl
  · exact failsAs_ok ()

/-- The members of a set are written one after the other, and the first that is too large decides.
-/
theorem failsAs_checkTextMembers (ms : List Scalar) :
    FailsAs (·.isSize = true) (checkTextMembers calls ms) := by
  induction ms with
  | nil => exact failsAs_ok ()
  | cons m ms ih => exact failsAs_checkRoom.bind fun _ => (failsAs_scalar m).bind fun _ => ih

mutual

/-- A value at any depth fails to be written for its size only. The induction follows the value
together with its items and its entries, with one more call open at each level. -/
theorem failsAs_checkTextAt (calls : Nat) : ∀ v : Value,
    FailsAs (·.isSize = true) (checkTextAt calls v)
  | .scalar s => by
    rw [checkTextAt]
    exact failsAs_checkRoom.bind fun _ => failsAs_scalar s
  | .again v => by
    rw [checkTextAt]
    exact failsAs_checkRoom
  | .list xs => by
    rw [checkTextAt]
    exact failsAs_checkRoom.bind fun _ => failsAs_checkTextItems (calls + 1) xs
  | .tuple xs => by
    rw [checkTextAt]
    exact failsAs_checkRoom.bind fun _ => failsAs_checkTextItems (calls + 1) xs
  | .set ms => by
    rw [checkTextAt]
    exact failsAs_checkRoom.bind fun _ => failsAs_checkTextMembers ms
  | .object es => by
    rw [checkTextAt]
    exact failsAs_checkRoom.bind fun _ => failsAs_checkTextEntries (calls + 1) es

theorem failsAs_checkTextItems (calls : Nat) : ∀ xs : List Value,
    FailsAs (·.isSize = true) (checkTextItems calls xs)
  | [] => failsAs_ok ()
  | v :: rest => by
    rw [checkTextItems]
    exact (failsAs_checkTextAt calls v).bind fun _ => failsAs_checkTextItems calls rest

theorem failsAs_checkTextEntries (calls : Nat) : ∀ es : List (Scalar × Value),
    FailsAs (·.isSize = true) (checkTextEntries calls es)
  | [] => failsAs_ok ()
  | (k, v) :: rest => by
    rw [checkTextEntries]
    refine failsAs_checkRoom.bind fun _ => (failsAs_scalar k).bind fun _ => ?_
    exact (failsAs_checkTextAt calls v).bind fun _ => failsAs_checkTextEntries calls rest

end

end Sizes

/-- **A value that cannot be written is too large.** -/
theorem failsAs_checkText (v : Value) : FailsAs (·.isSize = true) v.checkText :=
  failsAs_checkTextAt 1 v.opened

/-- The same for several values, of which the first that cannot be written decides. -/
theorem failsAs_checkTexts (vs : List Value) : FailsAs (·.isSize = true) (checkTexts vs) := by
  induction vs with
  | nil => exact failsAs_ok ()
  | cons v vs ih => exact (failsAs_checkText v).bind fun _ => ih

/-- A value that cannot be copied is too large. -/
theorem failsAs_checkCopy (v : Value) : FailsAs (·.isSize = true) v.checkCopy :=
  failsAs_checkRoom

end Value

end ApiOutline
