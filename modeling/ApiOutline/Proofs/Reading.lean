/-
Records, and what was wrong with them.

A field is read to a value in any case, and to a list of problems. A record is handed out when no
field had one. So to say that a record came out is to say of each field that it was read, and two
records that are read with the same problems either both come out or are refused alike.
-/
import ApiOutline.Outline.Reading
import ApiOutline.Value.Access

set_option autoImplicit false

namespace ApiOutline.Reading

variable {α β : Type}

/-! ## Readings -/

/-- A reading is what was read and what was wrong with it, and nothing else. -/
theorem ext_of_eq {r s : Reading α} (hvalue : r.value = s.value)
    (hproblems : r.problems = s.problems) : r = s := by
  cases r
  cases s
  rw [Reading.mk.injEq]
  exact ⟨hvalue, hproblems⟩

/-- Of several readings everything is kept that was read, also where problems were found. -/
theorem all_value (rs : List (Reading α)) : (all rs).value = rs.map (·.value) := by
  induction rs with
  | nil => rfl
  | cons r rest ih => rw [all, ih, List.map_cons]

/-- And all the problems, in the order of the readings. -/
theorem all_problems (rs : List (Reading α)) : (all rs).problems = rs.flatMap (·.problems) := by
  induction rs with
  | nil => rfl
  | cons r rest ih => rw [all, ih, List.flatMap_cons]

/-- A text is read as it stands when nothing was wrong. -/
theorem text_of_no_problems {field : String} {v : Value} (h : (text field v).problems = []) :
    Mismatch.text v = .ok (text field v).value := by
  rw [text] at h ⊢
  cases htext : Mismatch.text v with
  | ok name => rfl
  | error m =>
    rw [htext] at h
    exact nomatch h

/-- What was read without problems. -/
theorem eq_of_of_no_problems {r : Reading α} (h : r.problems = []) : r = of r.value :=
  ext_of_eq rfl h

/-- A check that left no problem came to what was read. -/
theorem eq_ok_of_check {location : List Step} {default a : α} {r : Except Mismatch α}
    (h : check location default r = of a) : r = .ok a := by
  cases r with
  | ok b => exact congrArg Except.ok (congrArg Reading.value h)
  | error m => exact nomatch congrArg Reading.problems h

/-! ## Records -/

/-- A record is handed out when nothing was wrong. -/
theorem record_eq_ok_iff {kind : RecordKind} {problems : List Problem} {a b : α} :
    record kind problems a = .ok b ↔ problems = [] ∧ a = b := by
  cases problems with
  | nil => exact ⟨fun h => ⟨rfl, Except.ok.inj h⟩, fun h => congrArg Except.ok h.2⟩
  | cons p rest => exact ⟨fun h => (nomatch h), fun h => (nomatch h.1)⟩

/-- A change to a record that was read has nothing to do with whether it is refused. -/
theorem record_map (kind : RecordKind) (problems : List Problem) (a : α) (f : α → β) :
    (record kind problems a).map f = record kind problems (f a) := by
  rw [record, record]
  split
  · rfl
  · rfl

end ApiOutline.Reading

/-! ## Fields of objects -/

namespace ApiOutline.FieldName

variable {f : FieldName} {a b : List (Scalar × Value)}

/-- A field is found by its names alone. -/
theorem find?_congr (hshown : Value.lookup (.str f.shown) a = Value.lookup (.str f.shown) b)
    (hown : Value.lookup (.str f.own) a = Value.lookup (.str f.own) b) :
    f.find? a = f.find? b := by
  rw [find?, find?, hshown, hown]

/-- What stands under the name of the outline is what the field has. -/
theorem find?_of_lookup {v : Value} (h : Value.lookup (.str f.shown) a = some v) :
    f.find? a = some (f.shown, v) := by
  rw [find?, h]

/-- A switch that stands under the shown name of its field is read as it stands and without
problems. -/
theorem flag_of_lookup {switch : Bool}
    (h : Value.lookup (.str f.shown) a = some (.bool switch)) : f.flag a = .of switch := by
  rw [flag, find?_of_lookup h]
  rfl

/-- So is a text. -/
theorem text_of_lookup {default text : String}
    (h : Value.lookup (.str f.shown) a = some (.str text)) : f.text default a = .of text := by
  rw [FieldName.text, find?_of_lookup h]
  rfl

/-! ### Fields with one name -/

section OneName

variable {name : String}

/-- A field that has one name for both uses holds what the object has under it, and null where it
has nothing. -/
theorem any_of_one_name : any ⟨name, name⟩ a = Value.Entries.get a name := by
  rw [any, find?, Value.Entries.get]
  cases Value.lookup (.str name) a with
  | none => rfl
  | some v => rfl

/-- A text that was read without problems from a field with one name is either the default, where
the object has no such key, or what a text is made of the value under it. -/
theorem text_of_one_name {default read : String} (h : text ⟨name, name⟩ default a = .of read) :
    Value.lookup (.str name) a = none ∧ read = default ∨
      Mismatch.text (Value.Entries.get a name) = .ok read := by
  rw [FieldName.text, find?] at h
  rw [Value.Entries.get]
  -- the default counts only where the object has no such key, not where it has null
  cases hlookup : Value.lookup (.str name) a with
  | none =>
    rw [hlookup] at h
    exact .inl ⟨rfl, (congrArg Reading.value h).symm⟩
  | some v =>
    rw [hlookup] at h
    exact .inr (Reading.eq_ok_of_check h)

/-- Where null is allowed besides, the absent key needs no case of its own: null is what it reads
as. -/
theorem text?_of_one_name {read : Option String} (h : text? ⟨name, name⟩ a = .of read) :
    Mismatch.text? (Value.Entries.get a name) = .ok read := by
  rw [FieldName.text?, find?] at h
  rw [Value.Entries.get]
  cases hlookup : Value.lookup (.str name) a with
  | none =>
    rw [hlookup] at h
    exact congrArg Except.ok (congrArg Reading.value h)
  | some v =>
    rw [hlookup] at h
    exact Reading.eq_ok_of_check h

end OneName

end ApiOutline.FieldName
