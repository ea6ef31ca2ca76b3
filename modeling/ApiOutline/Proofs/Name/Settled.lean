/-
Names that need no repair.

Three repairs make an identifier of a name, one after the other, and each could spoil what the one
before it did. None does: the underscore put in front of a digit is a word character and no digit,
and the one put behind a reserved word makes no word reserved and leaves the first character where
it was. So what comes out is settled (`settled_of_identifier?`), that is, it has none of the three
faults, and a settled name is left alone (`identifier?_of_settled`). Both together say that the
repairs are made once: the settled names are the fixed points, and every name but the empty one
gets to one of them in a single step.

Replacing the punctuation of a name beforehand does part of the first repair, and no more than
that. Whatever comes of a name, a problem included, therefore comes of it without its punctuation,
also when it is registered with a service (`register_normalize`).
-/
import ApiOutline.Decoding.Method
import ApiOutline.Decoding.Roster
import ApiOutline.Proofs.Name.Identifier

set_option autoImplicit false

namespace ApiOutline

namespace Name

open Text

/-- A name in which there is nothing to repair. -/
structure Settled (name : String) : Prop where
  word : ∀ c ∈ name.toList, isWordChar c = true
  first : ∀ c, name.toList.head? = some c → isDigitSign c = false
  free : isReserved name = false

/-! ## What comes out is settled -/

/-- The underscore is a word character, so no repair brings in a character that would need one. -/
theorem isWordChar_underscore : isWordChar '_' = true := by decide

/-- Nor is it a digit, so a name that begins with one needs no second underscore. -/
theorem isDigitSign_underscore : isDigitSign '_' = false := by decide

/-- Whatever a character is replaced by is a word character: itself, if it is one, and the
underscore otherwise. -/
theorem isWordChar_kept (c : Char) : isWordChar (kept c) = true := by
  rw [kept]
  split
  · next h => exact h
  · exact isWordChar_underscore

/-- The second repair keeps what the first one achieved: it puts at most an underscore in front.
-/
theorem isWordChar_of_mem_guarded {cs : List Char} (h : ∀ c ∈ cs, isWordChar c = true) :
    ∀ c ∈ guarded cs, isWordChar c = true := by
  cases cs with
  | nil => exact h
  | cons d rest =>
    intro c hc
    rw [guarded] at hc
    split at hc
    · rcases List.mem_cons.1 hc with rfl | hc
      · exact isWordChar_underscore
      · exact h c hc
    · exact h c hc

/-- After the second repair no digit stands in front: either there was none, or the underscore is
first now. -/
theorem isDigitSign_of_head?_guarded {cs : List Char} {c : Char}
    (h : (guarded cs).head? = some c) : isDigitSign c = false := by
  cases cs with
  | nil => exact nomatch h
  | cons d rest =>
    rw [guarded] at h
    by_cases hdigit : isDigitSign d = true
    · rw [if_pos hdigit] at h
      rw [← Option.some.inj h]
      exact isDigitSign_underscore
    · rw [if_neg hdigit] at h
      rw [← Option.some.inj h]
      exact Bool.not_eq_true _ ▸ hdigit

/-- A name that has only the last fault loses it and gets none of the others: the underscore is
put behind the name, where it is a word character and cannot be first. -/
theorem settled_unreserved {name : String} (hne : name ≠ "")
    (hword : ∀ c ∈ name.toList, isWordChar c = true)
    (hfirst : ∀ c, name.toList.head? = some c → isDigitSign c = false) :
    Settled (unreserved name) := by
  refine ⟨?_, ?_, isReserved_unreserved name⟩
  · intro c hc
    rw [unreserved] at hc
    split at hc
    · rw [String.toList_append, List.mem_append] at hc
      rcases hc with hc | hc
      · exact hword c hc
      · rw [List.mem_singleton.1 hc]
        exact isWordChar_underscore
    · exact hword c hc
  · intro c hc
    rw [unreserved] at hc
    split at hc
    · -- the underscore stands behind, so the first character is still the first
      have hlist : name.toList ≠ [] := fun h => hne (String.toList_eq_nil_iff.1 h)
      rw [String.toList_append, List.head?_append_of_ne_nil _ hlist] at hc
      exact hfirst c hc
    · exact hfirst c hc

/-- **What comes out is settled.** Each of the repairs takes care of one condition and leaves
those before it as they are. -/
theorem settled_of_identifier? {raw name : String} (h : identifier? raw = .ok name) :
    Settled name := by
  obtain ⟨hraw, rfl⟩ := identifier?_eq_ok_iff.1 h
  have hkept : ∀ c ∈ substituted raw.toList, isWordChar c = true := by
    intro c hc
    rw [substituted_eq_map] at hc
    obtain ⟨d, -, rfl⟩ := List.mem_map.1 hc
    exact isWordChar_kept d
  -- the first two repairs are done on the characters, the third one on the text they make
  refine settled_unreserved (guarded_substituted_ne_empty hraw) ?_ ?_
  · rw [String.toList_ofList]
    exact isWordChar_of_mem_guarded hkept
  · rw [String.toList_ofList]
    exact fun c hc => isDigitSign_of_head?_guarded hc

/-! ## What is settled stays as it is -/

/-- Where all characters are word characters, the first repair changes nothing. -/
theorem substituted_of_word {cs : List Char} (h : ∀ c ∈ cs, isWordChar c = true) :
    substituted cs = cs := by
  have hkept : ∀ c ∈ cs, kept c = c := fun c hc => if_pos (h c hc)
  rw [substituted_eq_map, List.map_congr_left hkept, List.map_id']

/-- Where no digit stands in front, the second repair changes nothing. -/
theorem guarded_of_first {cs : List Char}
    (h : ∀ c, cs.head? = some c → isDigitSign c = false) : guarded cs = cs := by
  cases cs with
  | nil => rfl
  | cons c rest =>
    have hc : isDigitSign c = false := h c rfl
    rw [guarded, hc]
    rfl

/-- **A settled name is left alone.** -/
theorem identifier?_of_settled {name : String} (hne : name ≠ "") (h : Settled name) :
    identifier? name = .ok name := by
  refine identifier?_eq_ok_iff.2 ⟨hne, ?_⟩
  -- each of the three repairs finds nothing to do
  rw [substituted_of_word h.word, guarded_of_first h.first, String.ofList_toList, unreserved,
    h.free]
  rfl

/-- A name is refused if it is empty, and for no other reason. -/
theorem identifier?_eq_error_iff {name : String} {f : Fault} :
    identifier? name = .error f ↔ name = "" ∧ f = .refused (.invalidMethodName (.str name)) := by
  rw [identifier?]
  by_cases h : name = ""
  · rw [if_pos h]
    constructor
    · intro heq
      exact ⟨h, (Except.error.inj heq).symm⟩
    · intro hboth
      rw [hboth.2]
  · rw [if_neg h]
    constructor
    · intro heq
      cases heq
    · intro hboth
      exact absurd hboth.1 h

/-- Every name but the empty one can be repaired. -/
theorem exists_identifier? {name : String} (h : name ≠ "") : ∃ r, identifier? name = .ok r :=
  ⟨_, identifier?_eq_ok_iff.2 ⟨h, rfl⟩⟩

end Name

/-! ## Registering -/

namespace Decoding

/-- A service gives the same name to a name without its punctuation, and tells the same about it. -/
theorem register_normalize (service : Service) (name : String) :
    register service (.str (Name.normalize name)) = register service (.str name) := by
  rw [register, register, Name.identifierOfValue_normalize]

/-- So whether an operation's own name is normalized does not show in what is registered. -/
theorem nameOf_register_normalize (d : Dialect) (service : Service) (raw verb path : Value) :
    (nameOf d Name.normalize service raw verb path >>= register service) =
      nameOf d id service raw verb path >>= register service := by
  simp only [nameOf, bind_assoc]
  -- up to the stated name both sides do the same
  refine congrArg (fun k => (liftM (withoutService service raw) : Trace Value) >>= k) ?_
  funext stated
  split
  · simp only [bind_assoc, pure_bind, id_eq, register_normalize]
  · rfl

/-- **The settled names are the fixed points of the repairs.** Only the empty name is refused. Of
any other comes a settled one, from which nothing else comes; a settled one is what comes of it. A
name and what is left of it without its punctuation have the same outcome, and a service registers
the same name for an operation whether or not the punctuation of its own name was replaced. -/
theorem identifier?_settled (name : String) :
    (Name.identifier? name = .error (.refused (.invalidMethodName (.str name))) ↔ name = "") ∧
      (name ≠ "" → ∃ r, Name.identifier? name = .ok r ∧ Name.Settled r ∧
        Name.identifier? r = .ok r) ∧
      (name ≠ "" → Name.Settled name → Name.identifier? name = .ok name) ∧
      Name.identifier? (Name.normalize name) = Name.identifier? name ∧
      (∀ service, register service (.str (Name.normalize name)) = register service (.str name)) ∧
      ∀ d service raw verb path,
        (nameOf d Name.normalize service raw verb path >>= register service) =
          nameOf d id service raw verb path >>= register service := by
  refine ⟨?_, ?_, Name.identifier?_of_settled, ?_, fun service => register_normalize service name,
    nameOf_register_normalize⟩
  · exact Name.identifier?_eq_error_iff.trans (and_iff_left rfl)
  · intro hne
    obtain ⟨r, hr⟩ := Name.exists_identifier? hne
    have hsettled := Name.settled_of_identifier? hr
    exact ⟨r, hr, hsettled, Name.identifier?_of_settled (Name.ne_empty_of_identifier? hr) hsettled⟩
  · by_cases hne : name = ""
    · rw [hne]
      rfl
    · exact Name.identifier?_normalize name hne

/-- Of `2nd-item` two things have to be repaired, the digit in front and the hyphen, and none is
left to repair in what comes of it. -/
theorem identifier?_settled_secondItem :
    "2nd-item" ≠ "" ∧ Name.identifier? "2nd-item" = .ok "_2nd_item" ∧ "_2nd_item" ≠ "" ∧
      Name.Settled "_2nd_item" ∧ Name.identifier? "_2nd_item" = .ok "_2nd_item" := by
  have hne : "2nd-item" ≠ "" := by decide
  have hout : Name.identifier? "2nd-item" = .ok "_2nd_item" :=
    Name.identifier?_eq_ok_iff.2 ⟨hne, by decide⟩
  obtain ⟨r, hr, hsettled, -⟩ := (identifier?_settled "2nd-item").2.1 hne
  have hr : r = "_2nd_item" := Except.ok.inj (hr.symm.trans hout)
  rw [hr] at hsettled
  have hrepaired : "_2nd_item" ≠ "" := by decide
  exact ⟨hne, hout, hrepaired, hsettled,
    (identifier?_settled "_2nd_item").2.2.1 hrepaired hsettled⟩

end Decoding

end ApiOutline
