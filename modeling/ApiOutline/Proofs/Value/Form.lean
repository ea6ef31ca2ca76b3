/-
Values that are handed out as they are.

An outline is handed out in JSON. A value that JSON knows, that is one of finite numbers, texts,
truth values, null, lists, and objects under different texts, is handed out unchanged, if its levels
are not too many, and there is no other way for it to fail (`formAt_eq`). So whatever comes out for
such a value is the value itself (`eq_of_form`).

The entries of an object are put behind those that are done, since keys that are no texts may become
the same text. Texts that are different stay so, and for them this is the same as writing one entry
behind the other. That is the invariant that the induction over the entries carries.
-/
import ApiOutline.Outline.Form
import ApiOutline.Proofs.Outcome
import ApiOutline.Proofs.Value.Entries

set_option autoImplicit false

namespace ApiOutline

/-- A scalar that JSON knows. -/
def Scalar.isJson : Scalar → Bool
  | .null => true
  | .bool _ => true
  | .int _ => true
  | .float x => x.isFinite
  | .str _ => true
  | _ => false

namespace Value

open Outcome

mutual

/-- A value that JSON knows. The keys of its objects are different texts. -/
def isJson : Value → Bool
  | .scalar s => s.isJson
  | .list xs => areJson xs
  | .object es => haveJson es
  | _ => false

def areJson : List Value → Bool
  | [] => true
  | v :: rest => isJson v && areJson rest

def haveJson : List (Scalar × Value) → Bool
  | [] => true
  | (.str name, v) :: rest => (lookup (.str name) rest).isNone && (isJson v && haveJson rest)
  | _ :: _ => false

end

mutual

/-- On how many levels a value is written. -/
def levels : Value → Nat
  | .scalar _ => 1
  | .list xs => itemLevels xs + 1
  | .object es => entryLevels es + 1
  | _ => 1

def itemLevels : List Value → Nat
  | [] => 0
  | v :: rest => max (levels v) (itemLevels rest)

def entryLevels : List (Scalar × Value) → Nat
  | [] => 0
  | (_, v) :: rest => max (levels v) (entryLevels rest)

end

/-- What stands on a level and needs a number of them, if they are there. -/
def fitted {α : Type} (level needed : Nat) (a : α) : Except Fault α :=
  if level + needed ≤ levelLimit + 1 then .ok a else .error .tooDeep

/-- To be allowed on a level is to have room for one. -/
theorem checkLevel_eq (level : Nat) : checkLevel level = fitted level 1 () := by
  rw [checkLevel, fitted]
  simp only [Nat.add_le_add_iff_right]

section Fitted

variable {α β γ : Type} {level m n : Nat}

/-- What needs too many levels is refused, and anything else comes out as it is. -/
theorem fitted_eq_ok_iff {a b : α} :
    fitted level n a = .ok b ↔ level + n ≤ levelLimit + 1 ∧ a = b := by
  rw [fitted]
  split
  · next hfits => exact ⟨fun h => ⟨hfits, Except.ok.inj h⟩, fun h => congrArg Except.ok h.2⟩
  · next hnot => exact ⟨fun h => (nomatch h), fun h => absurd h.1 hnot⟩

/-- A change to what comes out does not change how many levels it needs. -/
theorem fitted_map (f : α → β) (a : α) : (fitted level n a).map f = fitted level n (f a) := by
  rw [fitted, fitted]
  split
  · rfl
  · rfl

/-- What stands side by side needs the levels of both. -/
theorem fitted_bind {a : α} {b : β} {f : α → Except Fault β} (h : f a = fitted level n b) :
    (fitted level m a >>= f) = fitted level (max m n) b := by
  rw [fitted]
  by_cases hm : level + m ≤ levelLimit + 1
  · rw [if_pos hm, ok_bind, h, fitted, fitted]
    by_cases hn : level + n ≤ levelLimit + 1
    · rw [if_pos hn, if_pos (by omega)]
    · rw [if_neg hn, if_neg (by omega)]
  · rw [if_neg hm, fitted, if_neg (by omega)]
    rfl

/-- What stands on the levels below needs one more. -/
theorem fitted_below {x : Except Fault α} {a : α} (f : α → β)
    (h : level ≤ levelLimit → x = fitted (level + 1) n a) : (do
    checkLevel level
    x.map f) = fitted level (n + 1) (f a) := by
  rw [checkLevel]
  by_cases hlevel : level ≤ levelLimit
  · rw [if_pos hlevel, ok_bind, h hlevel, fitted_map, fitted, fitted, Nat.add_assoc,
      Nat.add_comm 1 n]
  · rw [if_neg hlevel, fitted, if_neg (by omega)]
    rfl

end Fitted

/-- A scalar that JSON knows is handed out unchanged. -/
theorem form_of_isJson {s : Scalar} (h : s.isJson = true) : s.form = .ok s := by
  cases s with
  | float x =>
    have hfinite : x.isFinite = true := h
    rw [Scalar.form, if_pos hfinite]
  | bytes => exact nomatch h
  | date => exact nomatch h
  | moment => exact nomatch h
  | _ => rfl

mutual

/-- **A value that JSON knows is handed out unchanged**, unless it has too many levels. The levels
are counted on the way down, and the induction follows the value with its items and entries. -/
theorem formAt_eq {v : Value} (h : v.isJson = true) (level : Nat) :
    formAt level v = fitted level v.levels v := by
  cases v with
  | scalar s =>
    rw [formAt, form_of_isJson h, checkLevel_eq, levels, fitted, fitted]
    split
    · rfl
    · rfl
  | list xs =>
    rw [formAt, levels]
    exact fitted_below Value.list fun hlevel => formItems_eq h (Nat.succ_le_succ hlevel)
  | object es =>
    rw [formAt, levels]
    refine fitted_below Value.object fun hlevel => ?_
    exact formEntries_eq h (Nat.succ_le_succ hlevel) fun _ _ _ hf => absurd hf List.not_mem_nil
  | _ => exact nomatch h

/-- The same of the items of a list: they stand side by side, so they need the levels of the
deepest one. -/
theorem formItems_eq {xs : List Value} (h : areJson xs = true) {level : Nat}
    (hlevel : level ≤ levelLimit + 1) : formItems level xs = fitted level (itemLevels xs) xs := by
  cases xs with
  | nil =>
    rw [formItems, itemLevels, fitted, Nat.add_zero, if_pos hlevel]
  | cons v rest =>
    obtain ⟨hv, hrest⟩ := Bool.and_eq_true_iff.1 h
    rw [formItems, formAt_eq hv level, formItems_eq hrest hlevel, itemLevels]
    exact fitted_bind (fitted_map (v :: ·) rest)

/-- And of the entries of an object, put behind those that are done. Keys that JSON knows are
different texts, so no entry takes the place of an earlier one, and this is what the induction
carries along in `hdone`. -/
theorem formEntries_eq {es : List (Scalar × Value)} (h : haveJson es = true) {level : Nat}
    (hlevel : level ≤ levelLimit + 1) {done : List (Scalar × Value)}
    (hdone : ∀ e ∈ es, ∀ f ∈ done, f.1 ≠ e.1) :
    formEntries level done es = fitted level (entryLevels es) (done ++ es) := by
  cases es with
  | nil => rw [formEntries, entryLevels, fitted, Nat.add_zero, if_pos hlevel, List.append_nil]
  | cons e rest =>
    obtain ⟨key, v⟩ := e
    cases key with
    | str name =>
      obtain ⟨hfresh, h⟩ := Bool.and_eq_true_iff.1 h
      obtain ⟨hv, hrest⟩ := Bool.and_eq_true_iff.1 h
      -- a key that was not there yet is put at the end, and does not come again
      have hput : put (.str name) v done = done ++ [(.str name, v)] :=
        put_of_not_mem (hdone _ List.mem_cons_self)
      have hnext : ∀ e ∈ rest, ∀ f ∈ done ++ [(.str name, v)], f.1 ≠ e.1 := by
        intro e he f hf
        rcases List.mem_append.1 hf with hf | hf
        · exact hdone e (List.mem_cons_of_mem _ he) f hf
        · rw [List.mem_singleton.1 hf]
          exact (ne_of_lookup_eq_none (Option.isNone_iff_eq_none.1 hfresh) e he).symm
      have hformRest := formEntries_eq hrest hlevel hnext
      rw [formEntries, formAt_eq hv level, entryLevels]
      refine fitted_bind ?_
      rw [hput, hformRest, List.append_assoc]
      rfl
    | _ => exact nomatch h

end

/-- **What comes out for a value that JSON knows is the value itself.** -/
theorem eq_of_form {v w : Value} (h : v.isJson = true) (hw : v.form = .ok w) : w = v := by
  rw [form, formAt_eq h 1] at hw
  exact (fitted_eq_ok_iff.1 hw).2.symm

/-- It does come out if it has not too many levels. -/
theorem form_eq_ok {v : Value} (h : v.isJson = true) (hlevels : v.levels ≤ levelLimit) :
    v.form = .ok v := by
  rw [form, formAt_eq h 1]
  exact fitted_eq_ok_iff.2 ⟨by omega, rfl⟩

end Value

end ApiOutline
