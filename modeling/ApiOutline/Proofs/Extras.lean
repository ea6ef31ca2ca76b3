/-
What a record has besides its fields.

A node is read as a record by handing its entries out to the fields. An entry that fills none is
kept, and a record that comes out has kept all of them, in their order and with the values that they
had (`entries_of_extras`). What is put into a node before it is read is put under names of fields.
So what a record keeps can be told from the node as it is written: they are entries of the node, and
which of them is told by their keys (`entries_of_extras_assign`).

A field has two names, and an entry under the second is kept if there is one under the first. Where
there is one under the first name of every field, exactly these names are not kept
(`keeps_eq_isBeyond`). Otherwise all that can be said is that what is under neither name of a field
is kept (`beyond_of_kept`).

When a record is handed out it has its fields first and then what it kept, entry by entry
(`shows_of_recordForm`).
-/
import ApiOutline.Proofs.Reading
import ApiOutline.Proofs.Value.Form

set_option autoImplicit false

namespace ApiOutline

/-! ## Entries beyond some names -/

namespace Value

/-- Is a key none of these names? -/
def isBeyond (names : List String) (key : Scalar) : Bool :=
  names.all fun name => key != .str name

/-- The entries under other keys than these names. -/
def Entries.beyond (es : Entries) (names : List String) : Entries :=
  es.filter (isBeyond names ·.1)

variable {names : List String}

theorem isBeyond_eq_true_iff {key : Scalar} :
    isBeyond names key = true ↔ ∀ name ∈ names, key ≠ .str name := by
  rw [isBeyond, List.all_eq_true]
  simp only [bne_iff_ne]

theorem isBeyond_str {name : String} : isBeyond names (.str name) = true ↔ name ∉ names := by
  rw [isBeyond_eq_true_iff]
  constructor
  · exact fun h hmem => h name hmem rfl
  · intro h other hmem heq
    exact h (Scalar.str.inj heq ▸ hmem)

/-- Entries under texts. -/
def Entries.ofTexts (fields : List (String × Value)) : Entries :=
  fields.map fun (name, v) => (.str name, v)

end Value

/-! ## What is kept -/

namespace Decoding

/-- What an entry that fills no field is read as. -/
def extraOf (e : Scalar × Value) : Reading (String × Value) :=
  match e.1 with
  | .str s => .of (s, e.2)
  | key => ⟨("", e.2), [⟨[Step.ofKey key], .notKey⟩]⟩

/-- An entry that was read without problems was one under a text, and is read as that entry. -/
theorem entry_of_extraOf {e : Scalar × Value} (h : (extraOf e).problems = []) :
    (Scalar.str (extraOf e).value.1, (extraOf e).value.2) = e := by
  obtain ⟨key, v⟩ := e
  cases key with
  | str s => rfl
  | _ => exact nomatch h

end Decoding

namespace FieldName

open Value

/-- Is an entry of that key kept, because it fills no field? -/
def keeps (fields : List FieldName) (es : Entries) (key : Scalar) : Bool :=
  match key with
  | .str s => !fills fields es s
  | _ => true

variable {fields : List FieldName} {es : Entries} {xs : Extras}

/-- What is left over is what is kept, entry by entry. -/
theorem extras_eq : extras fields es =
    Reading.all ((es.filter (keeps fields es ·.1)).map Decoding.extraOf) := rfl

/-- An entry under a text is kept when no field is shown under that text, and none is filled from
it by its second name, which counts only where nothing is under the first. -/
theorem keeps_str {name : String} : keeps fields es (.str name) = true ↔
    ∀ f ∈ fields, f.shown ≠ name ∧ (f.own = name → (lookup (.str f.shown) es).isSome = true) := by
  rw [keeps, Bool.not_eq_true', fills, List.any_eq_false]
  refine forall₂_congr fun f _ => ?_
  rw [Bool.or_eq_true, not_or, beq_iff_eq, Bool.and_eq_true, beq_iff_eq, Option.isNone_iff_eq_none,
    not_and, Option.isSome_iff_ne_none]

/-- What is under the name that a field has in the outline fills the field. -/
theorem keeps_shown {f : FieldName} (hf : f ∈ fields) : keeps fields es (.str f.shown) = false := by
  rw [← Bool.not_eq_true, keeps_str]
  exact fun h => (h f hf).1 rfl

/-- What is under neither name of a field is kept. -/
theorem keeps_of_isBeyond {names : List String} (h : ∀ f ∈ fields, f.shown ∈ names ∧ f.own ∈ names)
    {key : Scalar} (hkey : isBeyond names key = true) : keeps fields es key = true := by
  cases key with
  | str s =>
    have hs : s ∉ names := isBeyond_str.1 hkey
    rw [keeps_str]
    intro f hf
    exact ⟨fun hshown => absurd (hshown ▸ (h f hf).1) hs, fun hown => absurd (hown ▸ (h f hf).2) hs⟩
  | _ => rfl

/-- Where something is under the first name of every field, everything else is kept. -/
theorem keeps_eq_isBeyond (h : ∀ f ∈ fields, (lookup (.str f.shown) es).isSome = true)
    (key : Scalar) : keeps fields es key = isBeyond (fields.map (·.shown)) key := by
  rw [Bool.eq_iff_iff]
  cases key with
  | str s =>
    rw [keeps_str, isBeyond_str, List.mem_map]
    -- what is under the first name of a field fills it, whatever is under the second
    constructor
    · rintro hkept ⟨f, hf, hshown⟩
      exact (hkept f hf).1 hshown
    · -- the second name of a field does not count where something is under the first
      intro hnone f hf
      exact ⟨fun hshown => hnone ⟨f, hf, hshown⟩, fun _ => h f hf⟩
  | _ =>
    rw [isBeyond_eq_true_iff]
    exact ⟨fun _ _ _ heq => (nomatch heq), fun _ => rfl⟩

/-- **A record keeps all entries that fill no field**, in their order. -/
theorem entries_of_extras (h : extras fields es = .of xs) :
    Entries.ofTexts xs = es.filter (keeps fields es ·.1) := by
  rw [extras_eq] at h
  have hvalue := congrArg Reading.value h
  have hproblems := congrArg Reading.problems h
  rw [Reading.all_value, List.map_map] at hvalue
  rw [Reading.all_problems, List.flatMap_map] at hproblems
  have hxs : (es.filter (keeps fields es ·.1)).map (fun e => (Decoding.extraOf e).value) = xs :=
    hvalue
  have hentry : ∀ e ∈ es.filter (keeps fields es ·.1),
      (Scalar.str (Decoding.extraOf e).value.1, (Decoding.extraOf e).value.2) = e :=
    fun e he => Decoding.entry_of_extraOf (List.flatMap_eq_nil_iff.1 hproblems e he)
  rw [Entries.ofTexts, ← hxs, List.map_map]
  exact (List.map_congr_left hentry).trans (List.map_id _)

/-- What is put into a node under names of fields is not kept. The rest is the node's own. -/
theorem entries_of_extras_assign {as : List (String × Value)}
    (h : extras fields (es.assign as) = .of xs) (has : ∀ a ∈ as, a.1 ∈ fields.map (·.shown)) :
    Entries.ofTexts xs = es.filter (keeps fields (es.assign as) ·.1) := by
  rw [entries_of_extras h]
  -- what is put in may change what is kept, but only of entries under second names
  refine filter_assign_of_dropped _ (fun a ha => ?_) es
  obtain ⟨f, hf, hshown⟩ := List.mem_map.1 (has a ha)
  rw [← hshown]
  exact keeps_shown hf

/-- Beyond all names of the fields nothing is lost. -/
theorem beyond_of_kept {node : Entries} {names : List String}
    (hnames : ∀ f ∈ fields, f.shown ∈ names ∧ f.own ∈ names) :
    Entries.beyond (node.filter (keeps fields es ·.1)) names = node.beyond names := by
  rw [Entries.beyond, Entries.beyond, List.filter_filter]
  refine List.filter_congr fun e _ => ?_
  cases hkey : isBeyond names e.1 with
  | true => rw [keeps_of_isBeyond hnames hkey, Bool.and_true]
  | false => rw [Bool.false_and]

end FieldName

/-! ## What is handed out -/

namespace Value

/-- An entry as it is handed out: under its key and in its form, which is the value itself if JSON
knows it. -/
structure Written (e f : Scalar × Value) : Prop where
  key : f.1 = e.1
  form : e.2.form = .ok f.2
  unchanged : e.2.isJson = true → f.2 = e.2

/-- What a record kept is handed out entry by entry, in the same order. -/
theorem forall₂_of_formFields {xs ys : List (String × Value)} (h : formFields xs = .ok ys) :
    List.Forall₂ Written (Entries.ofTexts xs) (Entries.ofTexts ys) := by
  induction xs generalizing ys with
  | nil =>
    rw [← Except.ok.inj h]
    exact .nil
  | cons x rest ih =>
    simp only [formFields, Outcome.bind_eq_ok_iff] at h
    obtain ⟨w, hw, others, hothers, h⟩ := h
    rw [← Except.ok.inj h]
    exact .cons ⟨rfl, hw, fun hjson => eq_of_form hjson hw⟩ (ih hothers)

/-- A record as it is handed out: these fields, in their order, and behind them these entries. -/
def Shows (fields : List FieldName) (kept : Entries) (v : Value) : Prop :=
  ∃ own others, v = .object (own ++ others) ∧ own.map (·.1) = fields.map (.str ·.shown) ∧
    List.Forall₂ Written kept others

end Value

/-- **A record is handed out as its fields and what it kept.** -/
theorem shows_of_recordForm {names : List FieldName} {fields : List (String × Value)}
    {extras : Extras} {v : Value} (hfields : fields.map (·.1) = names.map (·.shown))
    (h : recordForm fields extras = .ok v) :
    Value.Shows names (Value.Entries.ofTexts extras) v := by
  obtain ⟨others, hothers, rfl⟩ := Outcome.map_eq_ok_iff.1 h
  refine ⟨Value.Entries.ofTexts fields, Value.Entries.ofTexts others, ?_, ?_,
    Value.forall₂_of_formFields hothers⟩
  · rw [Value.ofFields, List.map_append]
    rfl
  · have hkeys := congrArg (List.map Scalar.str) hfields
    rw [List.map_map, List.map_map] at hkeys
    rw [Value.Entries.ofTexts, List.map_map]
    exact hkeys

end ApiOutline
