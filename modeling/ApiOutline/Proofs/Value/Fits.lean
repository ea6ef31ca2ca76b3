/-
Values that can be handed out.

A value fits if JSON knows it and it has not too many levels. It is then handed out as it is
(`Fits.form_eq_ok`). Whatever is taken out of a value that fits does fit as well: the items of a
list, what stands under a name or a key, the value itself or what stands in for it. So every
question that a decoder asks of a document is answered with something that fits, and each lemma here
is about one of these questions.
-/
import ApiOutline.Proofs.Value.Form

set_option autoImplicit false

namespace ApiOutline.Value

open Outcome

/-- A value that JSON knows, with not too many levels. -/
structure Fits (v : Value) : Prop where
  isJson : v.isJson = true
  levels : v.levels ≤ levelLimit

/-- Values that fit. -/
def AllFit (xs : List Value) : Prop :=
  ∀ x ∈ xs, x.Fits

/-! ## Parts -/

/-- JSON knows a list of values if it knows each of them. -/
theorem areJson_iff {xs : List Value} : areJson xs = true ↔ ∀ x ∈ xs, x.isJson = true := by
  induction xs with
  | nil => exact ⟨fun _ _ hx => absurd hx List.not_mem_nil, fun _ => rfl⟩
  | cons v rest ih => rw [areJson, Bool.and_eq_true, ih, List.forall_mem_cons]

/-- The levels of a list of values are those of the deepest one, so they stay below a bound if all
of them do. -/
theorem itemLevels_le_iff {xs : List Value} {n : Nat} :
    itemLevels xs ≤ n ↔ ∀ x ∈ xs, x.levels ≤ n := by
  induction xs with
  | nil => exact ⟨fun _ _ hx => absurd hx List.not_mem_nil, fun _ => Nat.zero_le n⟩
  | cons v rest ih => rw [itemLevels, Nat.max_le, ih, List.forall_mem_cons]

/-- The levels below an object are those of its deepest value. Keys have none. -/
theorem entryLevels_le_iff {es : Entries} {n : Nat} :
    entryLevels es ≤ n ↔ ∀ e ∈ es, e.2.levels ≤ n := by
  induction es with
  | nil => exact ⟨fun _ _ he => absurd he List.not_mem_nil, fun _ => Nat.zero_le n⟩
  | cons e rest ih => rw [entryLevels, Nat.max_le, ih, List.forall_mem_cons]

/-- The entries of an object that JSON knows stand under texts, and JSON knows their values. -/
theorem isJson_of_haveJson {es : Entries} (h : haveJson es = true) {e : Scalar × Value}
    (he : e ∈ es) : (∃ name, e.1 = .str name) ∧ e.2.isJson = true := by
  induction es with
  | nil => exact absurd he List.not_mem_nil
  | cons f rest ih =>
    obtain ⟨key, v⟩ := f
    -- only a text is a key that JSON knows, and the rest of the entries goes on like the first
    cases key with
    | str name =>
      obtain ⟨_, h⟩ := Bool.and_eq_true_iff.1 h
      obtain ⟨hv, hrest⟩ := Bool.and_eq_true_iff.1 h
      rcases List.mem_cons.1 he with rfl | he
      · exact ⟨⟨name, rfl⟩, hv⟩
      · exact ih hrest he
    | _ => exact absurd h Bool.false_ne_true

/-- An item of a list that fits has one level less than the list, and so fits itself. -/
theorem Fits.of_mem_list {xs : List Value} (h : (list xs).Fits) : AllFit xs := by
  intro x hx
  have hlevels : itemLevels xs ≤ levelLimit := Nat.le_of_succ_le h.levels
  exact ⟨areJson_iff.1 h.isJson x hx, itemLevels_le_iff.1 hlevels x hx⟩

/-- A value in an object that fits does fit, for the same reason. -/
theorem Fits.of_mem_object {es : Entries} (h : (object es).Fits) {e : Scalar × Value}
    (he : e ∈ es) : e.2.Fits := by
  have hlevels : entryLevels es ≤ levelLimit := Nat.le_of_succ_le h.levels
  exact ⟨(isJson_of_haveJson h.isJson he).2, entryLevels_le_iff.1 hlevels e he⟩

/-- A scalar that JSON knows fits, as it has no levels to speak of. -/
theorem fits_scalar {s : Scalar} (h : s.isJson = true) : (scalar s).Fits :=
  ⟨h, by rw [levels, levelLimit]; omega⟩

theorem fits_null : null.Fits :=
  fits_scalar rfl

theorem fits_str (s : String) : (str s).Fits :=
  fits_scalar rfl

theorem fits_nil : (list []).Fits :=
  ⟨rfl, by rw [levels, itemLevels, levelLimit]; omega⟩

/-- The object without entries fits, and stands in for what a document does not state. So do the
empty list, a text and nothing at all. -/
theorem fits_empty : (object []).Fits :=
  ⟨rfl, by rw [levels, entryLevels, levelLimit]; omega⟩

/-! ## Questions -/

section Questions

variable {v w : Value} {es : Entries}

/-- What is looked up in an object is one of its values, under whichever key it was found. -/
theorem exists_mem_of_lookup {key : Scalar} (h : lookup key es = some v) :
    ∃ k, (k, v) ∈ es := by
  induction es with
  | nil => cases h
  | cons e rest ih =>
    obtain ⟨k, u⟩ := e
    rw [lookup] at h
    split at h
    · rw [Option.some.inj h]
      exact ⟨k, List.mem_cons_self⟩
    · obtain ⟨k', hk'⟩ := ih h
      exact ⟨k', List.mem_cons_of_mem _ hk'⟩

/-- Nothing in JSON contains itself. -/
theorem Fits.opened_eq (h : v.Fits) : v.opened = v := by
  cases v with
  | again w => exact absurd h.isJson Bool.false_ne_true
  | _ => rfl

/-- The entries that a value that fits answers with are its own, as it does not stand for another
value. -/
theorem Fits.of_entries (h : v.Fits) (hes : v.entries = .ok es) : (object es).Fits := by
  rw [← entries_eq_ok_iff.1 hes, h.opened_eq]
  exact h

/-- What stands under a key in an object that fits does fit, for any key that is looked up. -/
theorem Fits.of_lookup (h : (object es).Fits) {key : Scalar} (hv : lookup key es = some v) :
    v.Fits := by
  obtain ⟨k, hk⟩ := exists_mem_of_lookup hv
  exact h.of_mem_object hk

/-- So does what is taken in its place where there is nothing under the key. -/
theorem Fits.getD_lookup (h : (object es).Fits) (key : Scalar) :
    ((lookup key es).getD .null).Fits := by
  cases hv : lookup key es with
  | none => exact fits_null
  | some v => exact h.of_lookup hv

theorem Fits.get (h : (object es).Fits) (name : String) : (Entries.get es name).Fits :=
  h.getD_lookup (.str name)

/-- The answer to a question for a field fits: it is a value under a key, or nothing where there
is no such key. -/
theorem Fits.of_fieldAt (h : v.Fits) {key : Scalar} (hw : v.fieldAt key = .ok w) : w.Fits := by
  rw [fieldAt, h.opened_eq] at hw
  split at hw
  · rw [← Except.ok.inj hw]
    exact h.getD_lookup key
  · cases hw

/-- The answer to a question for an entry fits, and here the key has to be there. -/
theorem Fits.of_entry (h : v.Fits) {name : String} (hw : v.entry name = .ok w) : w.Fits := by
  rw [entry, h.opened_eq] at hw
  split at hw
  · split at hw
    · next hlookup =>
      rw [← Except.ok.inj hw]
      exact h.of_lookup hlookup
    · cases hw
  · cases hw

/-- A value or what stands in for it fits if both do. -/
theorem Fits.orElse (h : v.Fits) (hw : w.Fits) : (v.orElse w).Fits := by
  rw [Value.orElse]
  split
  · exact h
  · exact hw

/-- What a value is made of: items, keys or characters. Items have fewer levels than the list they
are in, while keys and characters are texts and fit in any case. -/
theorem Fits.of_elements (h : v.Fits) {xs : List Value} (hxs : v.elements = .ok xs) :
    AllFit xs := by
  -- the items of a list, the keys of an object or the characters of a text
  cases v with
  | list ys =>
    rw [← Except.ok.inj hxs]
    exact h.of_mem_list
  | object es =>
    rw [← Except.ok.inj hxs]
    intro x hx
    obtain ⟨⟨key, u⟩, he, rfl⟩ := List.mem_map.1 hx
    obtain ⟨name, rfl⟩ : ∃ name, key = .str name := (isJson_of_haveJson h.isJson he).1
    exact fits_str name
  | scalar s =>
    cases s with
    | str s =>
      rw [← Except.ok.inj hxs]
      intro x hx
      obtain ⟨c, _, rfl⟩ := List.mem_map.1 hx
      exact fits_str _
    | bytes octets => exact absurd h.isJson Bool.false_ne_true
    | _ => cases hxs
  | _ => exact absurd h.isJson Bool.false_ne_true

/-- The first element of a value fits, be it found by its place or under a key. -/
theorem Fits.of_first (h : v.Fits) (hw : v.first = .ok w) : w.Fits := by
  rw [first, h.opened_eq] at hw
  split at hw
  · split at hw
    · next hlookup =>
      rw [← Except.ok.inj hw]
      exact h.of_lookup hlookup
    · cases hw
  · cases hw
  · obtain ⟨xs, hxs, hw⟩ := bind_eq_ok_iff.1 hw
    cases xs with
    | nil => cases hw
    | cons x rest =>
      rw [← Except.ok.inj hw]
      exact h.of_elements hxs x List.mem_cons_self

end Questions

/-! ## What is handed out -/

/-- **A value that fits is handed out as it is**, with no change to its scalars, its order or its
keys. -/
theorem Fits.form_eq_ok {v : Value} (h : v.Fits) : v.form = .ok v :=
  Value.form_eq_ok h.isJson h.levels

/-- Items are handed out one by one, each with levels of its own. -/
theorem AllFit.formItems_eq_ok {xs : List Value} (h : AllFit xs) : formItems 1 xs = .ok xs := by
  have hjson : areJson xs = true := areJson_iff.2 fun x hx => (h x hx).isJson
  -- each of them has its own levels, so nothing is said about their sum
  have hlevels : itemLevels xs ≤ levelLimit := itemLevels_le_iff.2 fun x hx => (h x hx).levels
  rw [formItems_eq hjson (Nat.le_add_left 1 levelLimit), fitted_eq_ok_iff]
  exact ⟨by omega, rfl⟩

/-- The entries of an object that fits are handed out in their order, none of them met before on
the way down. -/
theorem Fits.formEntries_eq_ok {es : Entries} (h : (object es).Fits) :
    formEntries 1 [] es = .ok es := by
  have hlevels : entryLevels es + 1 ≤ levelLimit := h.levels
  have hform : formEntries 1 [] es = fitted 1 (entryLevels es) es :=
    formEntries_eq h.isJson (Nat.le_add_left 1 levelLimit) fun _ _ _ hf =>
      absurd hf List.not_mem_nil
  rw [hform, fitted_eq_ok_iff]
  exact ⟨by omega, rfl⟩

end ApiOutline.Value
