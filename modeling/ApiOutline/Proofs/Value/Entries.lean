/-
Looking things up in entries that were changed.

Entries are looked through from the front, and a value is put in the place of the one that has its
key. With keys that are texts this behaves as one would wish, although keys are compared by what
they are worth: no other key is worth the same as a text (`same_str_eq`). So what stands under a
text after a change is told by the change alone, and what a filter by keys leaves is changed the
same way.
-/
import ApiOutline.Value.Access

set_option autoImplicit false

namespace ApiOutline

/-- **Nothing but a text is worth the same as a text.** Numbers and truth values are compared by
their worth, which no text has. -/
theorem Scalar.same_str_eq (key : Scalar) (name : String) :
    key.same (.str name) = decide (key = .str name) := by
  cases key with
  | str s => simp [same_str]
  | float x => cases hx : x.toInt? <;> simp [same, asInt?, hx]
  | _ => simp [same, asInt?]

/-- The same comparison from the other side. -/
theorem Scalar.str_same_eq (name : String) (key : Scalar) :
    Scalar.same (.str name) key = decide (key = .str name) := by
  cases key with
  | str s =>
    rw [same_str]
    simp only [Scalar.str.injEq, eq_comm]
  | float x => cases hx : x.toInt? <;> simp [same, asInt?, hx]
  | _ => simp [same, asInt?]

namespace Value

/-! ## Texts among values -/

/-- Only a text is the same as a text. -/
theorem same_str_iff {v : Value} {name : String} : v.same (.str name) = true ↔ v = .str name := by
  cases v with
  | scalar k => rw [same, Scalar.same_str_eq, decide_eq_true_iff, scalar.injEq]
  | _ => simp [same]

/-- Comparing a text with a value is comparing the value with the text. -/
theorem str_same_iff {v : Value} {name : String} :
    (Value.str name).same v = true ↔ v = .str name := by
  cases v with
  | scalar k => rw [same, Scalar.str_same_eq, decide_eq_true_iff, scalar.injEq]
  | _ => simp [same]

/-- A text is among values by comparison exactly if it is one of them. -/
theorem any_same_str_iff {xs : List Value} {name : String} :
    (xs.any fun x => x.same (.str name)) = true ↔ .str name ∈ xs := by
  simp only [List.any_eq_true, same_str_iff, exists_eq_right]

/-! ## Entries under texts -/

/-- Looking up a text goes through the entries from the front, and the first one with that very
key is taken. This and the next lemma replace the comparison by worth with an equation from here
on. -/
theorem lookup_cons_str (e : Scalar × Value) (rest : List (Scalar × Value)) (name : String) :
    lookup (.str name) (e :: rest) =
      if e.1 = .str name then some e.2 else lookup (.str name) rest := by
  obtain ⟨k, v⟩ := e
  rw [lookup, Scalar.same_str_eq]
  simp only [decide_eq_true_eq]

/-- A value is put where the first entry with that key stands, or goes on to the rest. -/
theorem put_cons_str (e : Scalar × Value) (rest : List (Scalar × Value)) (name : String)
    (v : Value) :
    put (.str name) v (e :: rest) =
      if e.1 = .str name then (e.1, v) :: rest else e :: put (.str name) v rest := by
  obtain ⟨k, w⟩ := e
  rw [put, Scalar.same_str_eq]
  simp only [decide_eq_true_eq]

/-- What stands under a text after a value was put under another or the same. -/
theorem lookup_put (es : List (Scalar × Value)) (name other : String) (v : Value) :
    lookup (.str other) (put (.str name) v es) =
      if name = other then some v else lookup (.str other) es := by
  induction es with
  | nil =>
    rw [put, lookup_cons_str]
    simp only [Scalar.str.injEq]
  | cons e rest ih =>
    rw [put_cons_str]
    -- the entry in front has the key that is put under, or it stays as it is
    by_cases hname : e.1 = .str name
    · rw [if_pos hname, lookup_cons_str, lookup_cons_str, hname]
      simp only [Scalar.str.injEq]
      by_cases hother : name = other
      · rw [if_pos hother, if_pos hother]
      · rw [if_neg hother, if_neg hother, if_neg hother]
    · rw [if_neg hname, lookup_cons_str, lookup_cons_str, ih]
      by_cases hother : name = other
      · rw [if_pos hother, if_pos hother, if_neg (hother ▸ hname)]
      · rw [if_neg hother, if_neg hother]

/-- Where no entry has the text as its key nothing is found under it. -/
theorem lookup_eq_none_of_not_mem {es : List (Scalar × Value)} {name : String}
    (h : ∀ e ∈ es, e.1 ≠ .str name) : lookup (.str name) es = none := by
  induction es with
  | nil => rfl
  | cons e rest ih =>
    rw [lookup_cons_str, if_neg (h e List.mem_cons_self)]
    exact ih fun f hf => h f (List.mem_cons_of_mem e hf)

/-- Conversely, where nothing is found no entry has the text as its key. -/
theorem ne_of_lookup_eq_none {es : List (Scalar × Value)} {name : String}
    (h : lookup (.str name) es = none) : ∀ e ∈ es, e.1 ≠ .str name := by
  induction es with
  | nil => exact fun e he => absurd he List.not_mem_nil
  | cons f rest ih =>
    rw [lookup_cons_str] at h
    split at h
    · exact nomatch h
    · next hne =>
      intro e he
      rcases List.mem_cons.1 he with rfl | he
      · exact hne
      · exact ih h e he

/-- Whether something stands under a text can be asked of the keys alone. -/
theorem isSome_lookup_str (es : List (Scalar × Value)) (name : String) :
    (lookup (.str name) es).isSome = es.any fun e => e.1.same (.str name) := by
  induction es with
  | nil => rfl
  | cons e rest ih =>
    rw [lookup_cons_str, List.any_cons, ← ih, Scalar.same_str_eq]
    by_cases h : e.1 = .str name
    · simp [h]
    · simp [h]

/-- Of two lists of entries the first is looked through first, and the second only where that has
nothing. -/
theorem lookup_append (as bs : List (Scalar × Value)) (name : String) :
    lookup (.str name) (as ++ bs) = (lookup (.str name) as).or (lookup (.str name) bs) := by
  induction as with
  | nil => rfl
  | cons e rest ih =>
    rw [List.cons_append, lookup_cons_str, lookup_cons_str]
    split
    · rfl
    · exact ih

/-- The keys after a value was put are those before and the one it was put under. -/
theorem key_of_mem_put {es : List (Scalar × Value)} {name : String} {v : Value}
    {e : Scalar × Value} (h : e ∈ put (.str name) v es) :
    e.1 = .str name ∨ ∃ f ∈ es, e.1 = f.1 := by
  induction es with
  | nil => exact .inl (by rw [List.mem_singleton.1 h])
  | cons f rest ih =>
    rw [put_cons_str] at h
    split at h
    · next hname =>
      rcases List.mem_cons.1 h with rfl | h
      · exact .inl hname
      · exact .inr ⟨e, List.mem_cons_of_mem f h, rfl⟩
    · rcases List.mem_cons.1 h with rfl | h
      · exact .inr ⟨e, List.mem_cons_self, rfl⟩
      -- the value was put further back
      · rcases ih h with hname | ⟨g, hg, hkey⟩
        · exact .inl hname
        · exact .inr ⟨g, List.mem_cons_of_mem f hg, hkey⟩

/-! ## Values that are objects, or texts -/

/-- Only null counts as null. An absent entry is read as null, so this is also how it is noticed.
-/
theorem isNull_iff {v : Value} : v.isNull = true ↔ v = .null := by
  constructor
  · intro h
    unfold isNull at h
    split at h
    · rfl
    · exact nomatch h
  · rintro rfl
    rfl

/-- A text or null. -/
def IsTextOrNull (v : Value) : Prop :=
  v = .null ∨ ∃ s : String, v = .str s

/-- A value that is a text or null stays one when it gives way to another such value. -/
theorem IsTextOrNull.orElse {v w : Value} (hv : v.IsTextOrNull) (hw : w.IsTextOrNull) :
    (v.orElse w).IsTextOrNull := by
  unfold Value.orElse
  by_cases h : v.truthy = true
  · rw [if_pos h]
    exact hv
  · rw [if_neg h]
    exact hw

/-- A text that counts as absent is empty. -/
theorem eq_empty_of_not_truthy {s : String} (h : (Value.str s).truthy = false) : s = "" := by
  have hempty : (s != "") = false := h
  exact bne_eq_false_iff_eq.1 hempty

/-- What answers with a text is that text, since other values are not turned into one. -/
theorem eq_str_of_asText {v : Value} {name : String} (h : v.asText = .ok name) :
    v = .str name := by
  unfold asText at h
  split at h
  · rw [Except.ok.inj h]
  · exact nomatch h
  · exact nomatch h

/-- What can be searched as a text is that text. -/
theorem eq_str_of_searchable {v : Value} {name : String} (h : v.searchable = .ok name) :
    v = .str name := by
  unfold searchable at h
  split at h
  · rw [Except.ok.inj h]
  · exact nomatch h

section Opened

variable {v : Value} {es : List (Scalar × Value)}

/-- A value answers with entries exactly if it is the object that has them, or stands for it. -/
theorem entries_eq_ok_iff : v.entries = .ok es ↔ v.opened = .object es := by
  rw [entries]
  split
  · next fs hopened =>
    rw [hopened]
    exact ⟨fun h => congrArg Value.object (Except.ok.inj h), fun h => congrArg Except.ok (by
      injection h)⟩
  · next hopened => exact ⟨fun h => (nomatch h), fun h => (hopened es h).elim⟩

/-- A field that is asked for by name is looked up in the entries, and null where there is none.
-/
theorem field_of_entries (h : v.entries = .ok es) (name : String) :
    v.field name = .ok (Entries.get es name) := by
  rw [field, fieldAt, entries_eq_ok_iff.1 h]
  rfl

/-- An entry that is there is the answer to a question for it. -/
theorem entry_of_entries (h : v.entries = .ok es) {name : String} {w : Value}
    (hw : lookup (.str name) es = some w) : v.entry name = .ok w := by
  rw [entry, entries_eq_ok_iff.1 h]
  dsimp only
  rw [hw]

/-- Whatever is asked for by name is asked of the entries. -/
theorem field_eq_map_entries (name : String) (v : Value) :
    v.field name = v.entries.map fun es => Entries.get es name := by
  rw [field, fieldAt, entries]
  split
  · rfl
  · rfl

/-- What has a field is an object. -/
theorem exists_entries_of_field {v w : Value} {name : String} (h : v.field name = .ok w) :
    ∃ es, v.entries = .ok es := by
  rw [field_eq_map_entries] at h
  cases hes : v.entries with
  | ok es => exact ⟨es, rfl⟩
  | error e =>
    rw [hes] at h
    exact nomatch h

/-- An object is not replaced by another one unless both are empty. -/
theorem entries_orElse_object (es : List (Scalar × Value)) :
    ((object es).orElse (.object [])).entries = .ok es := by
  cases es with
  | nil => rfl
  | cons e rest => rfl

/-- An object that is replaced by an empty one was empty. -/
theorem entries_orElse (h : v.entries = .ok es) : (v.orElse (.object [])).entries = .ok es := by
  cases v with
  | object fs =>
    rw [entries_orElse_object]
    exact h
  | again w => exact h
  | _ => exact nomatch h

/-- What is found under a name is what one gets there. -/
theorem Entries.get_of_lookup {name : String} {w : Value} (h : lookup (.str name) es = some w) :
    Entries.get es name = w := by
  rw [Entries.get, h]
  rfl

end Opened

/-- A list is made of its items, as is what stands for the list. -/
theorem elements_of_opened {v : Value} {xs : List Value} (h : v.opened = .list xs) :
    v.elements = .ok xs := by
  rw [elements, h]

/-- A list that counts as absent is empty. -/
theorem eq_nil_of_not_truthy {v : Value} {items : List Value} (h : v.opened = .list items)
    (habsent : v.truthy = false) : items = [] := by
  cases v with
  | list xs =>
    obtain rfl : xs = items := Value.list.inj h
    simpa [truthy] using habsent
  | again w => exact nomatch habsent
  | _ => exact nomatch h

/-- Texts are looked for in a list of texts. -/
theorem containsText_texts {v : Value} {types : List String} (h : v.opened = .list (types.map .str))
    (type : String) : v.containsText type = .ok (decide (type ∈ types)) := by
  rw [Value.containsText, h]
  dsimp only
  rw [Except.ok.injEq, Bool.eq_iff_iff, any_same_str_iff, decide_eq_true_iff]
  simp

/-- A list is not replaced by another one unless both are empty. -/
theorem elements_orElse_list {v : Value} {xs : List Value} (h : v.opened = .list xs) :
    (v.orElse (.list [])).elements = .ok xs := by
  cases v with
  | list ys =>
    cases ys with
    | nil => exact congrArg elements h
    | cons y ys => exact congrArg elements h
  | again w =>
    rw [opened] at h
    rw [orElse, truthy, if_pos rfl, Value.elements, opened, h]
  | _ => exact nomatch h

/-- Nothing stands under a name that is none of the keys. -/
theorem Entries.get_eq_null {es : Entries} {keys : List Scalar} (h : ∀ e ∈ es, e.1 ∈ keys)
    {name : String} (hname : .str name ∉ keys) : es.get name = .null := by
  rw [Entries.get, lookup_eq_none_of_not_mem fun e he hkey => hname (hkey ▸ h e he)]
  rfl

/-! ## Entries with some of the keys -/

section Filter

variable (keep : Scalar → Bool)

/-- Filtering entries by their keys leaves what stands under a key that is kept, since no other
entry with that key is left out either. -/
theorem lookup_filter {name : String} (h : keep (.str name) = true)
    (es : List (Scalar × Value)) :
    lookup (.str name) (es.filter (keep ·.1)) = lookup (.str name) es := by
  induction es with
  | nil => rfl
  | cons e rest ih =>
    rw [List.filter_cons]
    by_cases hkeep : keep e.1 = true
    · rw [if_pos hkeep, lookup_cons_str, lookup_cons_str, ih]
    · rw [if_neg hkeep, ih, lookup_cons_str, if_neg]
      rintro heq
      rw [heq] at hkeep
      exact hkeep h

/-- Under a key that is left out nothing is left. -/
theorem lookup_filter_of_dropped {name : String} (h : keep (.str name) = false)
    (es : List (Scalar × Value)) : lookup (.str name) (es.filter (keep ·.1)) = none := by
  refine lookup_eq_none_of_not_mem fun e he hkey => ?_
  have hkeep := (List.mem_filter.1 he).2
  rw [hkey, h] at hkeep
  exact nomatch hkeep

/-- A value put under a key that is left out makes no difference. -/
theorem filter_put_of_dropped {name : String} (h : keep (.str name) = false) (v : Value)
    (es : List (Scalar × Value)) :
    (put (.str name) v es).filter (keep ·.1) = es.filter (keep ·.1) := by
  induction es with
  | nil => rw [put, List.filter_cons, if_neg (by rw [h]; exact Bool.false_ne_true)]
  | cons e rest ih =>
    rw [put_cons_str]
    by_cases hname : e.1 = .str name
    · have hdropped : ¬ keep e.1 = true := by
        rw [hname, h]
        exact Bool.false_ne_true
      rw [if_pos hname, List.filter_cons, List.filter_cons, if_neg hdropped, if_neg hdropped]
    · rw [if_neg hname, List.filter_cons, List.filter_cons, ih]

/-- A value put under a key that is kept is put among those that are kept. -/
theorem filter_put_of_kept {name : String} (h : keep (.str name) = true) (v : Value)
    (es : List (Scalar × Value)) :
    (put (.str name) v es).filter (keep ·.1) = put (.str name) v (es.filter (keep ·.1)) := by
  induction es with
  | nil => rw [put, List.filter_cons, if_pos h, List.filter_nil, put]
  | cons e rest ih =>
    rw [put_cons_str]
    by_cases hname : e.1 = .str name
    · have hkept : keep e.1 = true := by rw [hname, h]
      rw [if_pos hname, List.filter_cons, List.filter_cons, if_pos hkept, if_pos hkept,
        put_cons_str, if_pos hname]
    · rw [if_neg hname, List.filter_cons, List.filter_cons, ih]
      by_cases hkept : keep e.1 = true
      · rw [if_pos hkept, if_pos hkept, put_cons_str, if_neg hname]
      · rw [if_neg hkept, if_neg hkept]

end Filter

/-! ## Entries that are rewritten -/

/-- What stands under a text once each entry was rewritten or left out, if it comes only from
entries with one key. -/
theorem lookup_filterMap {f : Scalar × Value → Option (Scalar × Value)} {g : Value → Value}
    {name other : String} {es : List (Scalar × Value)}
    (hname : ∀ v, f (.str name, v) = some (.str other, g v))
    (hother : ∀ e ∈ es, ∀ e', f e = some e' → e'.1 = .str other → e.1 = .str name) :
    lookup (.str other) (es.filterMap f) = (lookup (.str name) es).map g := by
  induction es with
  | nil => rfl
  | cons e rest ih =>
    have hrest := ih fun d hd => hother d (List.mem_cons_of_mem e hd)
    rw [lookup_cons_str]
    by_cases hkey : e.1 = .str name
    · obtain ⟨key, v⟩ := e
      obtain rfl : key = .str name := hkey
      rw [List.filterMap_cons_some (hname v), lookup_cons_str, if_pos rfl, if_pos rfl,
        Option.map_some]
    -- an entry under another key is left out or goes to another key than the one in question
    · rw [if_neg hkey, ← hrest]
      cases hrewritten : f e with
      | none => rw [List.filterMap_cons_none hrewritten]
      | some e' =>
        rw [List.filterMap_cons_some hrewritten, lookup_cons_str, if_neg]
        exact fun h => hkey (hother e List.mem_cons_self e' hrewritten h)

/-! ## Entries put one after the other -/

/-- A value under a new key goes behind all others. -/
theorem put_of_not_mem {es : List (Scalar × Value)} {name : String} {v : Value}
    (h : ∀ e ∈ es, e.1 ≠ .str name) : put (.str name) v es = es ++ [(.str name, v)] := by
  induction es with
  | nil => rfl
  | cons e rest ih =>
    rw [put_cons_str, if_neg (h e List.mem_cons_self),
      ih fun f hf => h f (List.mem_cons_of_mem e hf)]
    rfl

section Distinct

variable {α : Type} {key : α → String} {value : α → Value} {xs : List α}

/-- Entries under different texts, put one after the other, are appended in their order. The
induction is on what is still to be put, and what is there already has none of these keys. -/
theorem foldl_put_of_nodup (h : (xs.map key).Nodup) {es : List (Scalar × Value)}
    (hes : ∀ x ∈ xs, ∀ e ∈ es, e.1 ≠ .str (key x)) :
    (xs.map fun x => (Scalar.str (key x), value x)).foldl (fun es (k, v) => put k v es) es =
      es ++ xs.map fun x => (.str (key x), value x) := by
  induction xs generalizing es with
  | nil => exact (List.append_nil es).symm
  | cons x rest ih =>
    rw [List.map_cons, List.nodup_cons] at h
    rw [List.map_cons, List.foldl_cons]
    dsimp only
    rw [put_of_not_mem (hes x List.mem_cons_self), ih h.2]
    · exact List.append_assoc es [_] _
    · -- the key that was just added does not come again
      intro y hy e he
      rcases List.mem_append.1 he with he | he
      · exact hes y (List.mem_cons_of_mem x hy) e he
      · rw [List.mem_singleton.1 he]
        intro heq
        refine h.1 ?_
        rw [Scalar.str.inj heq]
        exact List.mem_map_of_mem hy

/-- Entries under different texts are what comes of putting them one after the other. -/
theorem ofEntries_of_nodup (h : (xs.map key).Nodup) :
    ofEntries (xs.map fun x => (.str (key x), value x)) =
      xs.map fun x => (.str (key x), value x) :=
  -- nothing is there to begin with
  foldl_put_of_nodup h fun _ _ _ he => absurd he List.not_mem_nil

end Distinct

/-! ## Values put under several names -/

/-- The entries with values under names, put one after the other. -/
def Entries.assign (es : Entries) (as : List (String × Value)) : Entries :=
  as.foldl (fun es a => es.set a.1 a.2) es

/-- What was put under a name last, if anything was. -/
def lastPut (name : String) (as : List (String × Value)) : Option Value :=
  as.reverse.lookup name

/-- Of two lists of values to put, the second is put later and so decides first. -/
theorem lastPut_append (name : String) (as bs : List (String × Value)) :
    lastPut name (as ++ bs) = (lastPut name bs).or (lastPut name as) := by
  rw [lastPut, List.reverse_append, List.lookup_append]
  rfl

/-- To put two lists of values is to put the one and then the other. -/
theorem Entries.assign_append (es : Entries) (as bs : List (String × Value)) :
    es.assign (as ++ bs) = (es.assign as).assign bs :=
  List.foldl_append

/-- A single value is put under its own name and under no other. -/
theorem lastPut_singleton (name other : String) (v : Value) :
    lastPut other [(name, v)] = if name = other then some v else none := by
  rw [lastPut, List.reverse_singleton]
  by_cases hname : name = other
  · rw [if_pos hname, hname, List.lookup_cons_self]
  · rw [if_neg hname, List.lookup_eq_none_iff]
    intro a ha
    rw [List.mem_singleton.1 ha, bne_iff_ne]
    exact Ne.symm hname

/-- Values put under keys that are left out make no difference. -/
theorem filter_assign_of_dropped (keep : Scalar → Bool) {as : List (String × Value)}
    (h : ∀ a ∈ as, keep (.str a.1) = false) (es : Entries) :
    (es.assign as).filter (keep ·.1) = es.filter (keep ·.1) := by
  induction as generalizing es with
  | nil => rfl
  | cons a as ih =>
    have hassign : es.assign (a :: as) = (es.set a.1 a.2).assign as := rfl
    rw [hassign, ih fun b hb => h b (List.mem_cons_of_mem a hb)]
    exact filter_put_of_dropped keep (h a List.mem_cons_self) a.2 es

/-- What stands under a text is what was put there last, or else what stood there before. -/
theorem lookup_assign (es : Entries) (as : List (String × Value)) (name : String) :
    lookup (.str name) (es.assign as) = (lastPut name as).or (lookup (.str name) es) := by
  -- the values are put one by one, each into what the ones before it have left
  induction as generalizing es with
  | nil => rfl
  | cons a as ih =>
    have hassign : es.assign (a :: as) = (es.set a.1 a.2).assign as := rfl
    have hlast : lastPut name (a :: as) = (lastPut name as).or (lastPut name [a]) :=
      lastPut_append name [a] as
    rw [hassign, ih, hlast, Option.or_assoc, lastPut_singleton, Entries.set, lookup_put]
    split
    · rfl
    · rfl

end Value

end ApiOutline
