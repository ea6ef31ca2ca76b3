/-
What becomes of a name when an identifier is made of it.

The first thing is that it does not matter whether the punctuation of a name is replaced before:
a dot, a hyphen, a brace or a blank is no word character, so it becomes an underscore in any case
(`identifierOfValue_normalize`). One dialect does that and the other does not.

The second is which names really come out as identifiers. Whatever is no word character is
replaced, a digit in front gets an underscore before it and a reserved word one behind, but a
character that passes for one of a word is kept, whether or not it stands in identifiers. So the
result is an identifier just when the name was clean from the start
(`isIdentifier_iff_of_identifier?`). A number behind it changes nothing about that, and none of the
names is reserved.
-/
import ApiOutline.Name.Method
import ApiOutline.Proofs.Name.Free
import ApiOutline.Proofs.Text.Ranges
import ApiOutline.Text.Identifier

set_option autoImplicit false

namespace ApiOutline

namespace Name

open Text

/-! ## Replacing the punctuation first -/

/-- What a character becomes in an identifier. -/
def kept (c : Char) : Char :=
  if isWordChar c then c else '_'

/-- The substitution goes character by character, so it can be joined with any other that does. -/
theorem substituted_eq_map (cs : List Char) : substituted cs = cs.map kept := rfl

/-- No character is a blank and a letter or digit. The two tables of ranges are compared as they
stand, which takes no look at single characters. -/
theorem blank_apart : blankRanges.Apart alphanumericRanges := by decide +kernel

/-- A blank is no word character, so it would be replaced in any case. -/
theorem isWordChar_eq_false_of_isBlank {c : Char} (h : isBlank c = true) :
    isWordChar c = false := by
  rw [isWordChar, isAlphanumeric, blank_apart.has_eq_false h, Bool.false_or, beq_eq_false_iff_ne]
  rintro rfl
  exact absurd h (by decide)

/-- None of the characters that are replaced first is a word character: they are blanks and a few
signs. -/
theorem isWordChar_eq_false_of_isSoftBreak {c : Char} (h : isSoftBreak c = true) :
    isWordChar c = false := by
  simp only [isSoftBreak, Bool.or_eq_true, beq_iff_eq] at h
  rcases h with (((rfl | rfl) | rfl) | rfl) | h
  · decide
  · decide
  · decide
  · decide
  · exact isWordChar_eq_false_of_isBlank h

/-- To replace a character first makes no difference to what becomes of it, as the underscore that
it is replaced by is kept. -/
theorem kept_softBreak (c : Char) : kept (if isSoftBreak c then '_' else c) = kept c := by
  split
  · next h =>
    rw [kept, kept, if_pos (by decide), if_neg]
    rw [isWordChar_eq_false_of_isSoftBreak h]
    exact Bool.false_ne_true
  · rfl

/-- Replacing characters leaves a text as long as it was, so only the empty text becomes empty. -/
theorem normalize_eq_empty_iff (name : String) : normalize name = "" ↔ name = "" := by
  rw [normalize, String.ofList_eq_empty_iff, List.map_eq_nil_iff, String.toList_eq_nil_iff]

/-- An identifier comes out the same from a text and from the text with its punctuation replaced.
The empty text is excluded because no identifier is made of it. -/
theorem identifier?_normalize (name : String) (h : name ≠ "") :
    identifier? (normalize name) = identifier? name := by
  rw [identifier?, identifier?, if_neg (mt (normalize_eq_empty_iff name).1 h), if_neg h,
    substituted_eq_map, substituted_eq_map, normalize, String.toList_ofList, List.map_map]
  simp only [Function.comp_def, kept_softBreak]

/-- The identifier is the same whether or not punctuation was replaced before. -/
theorem identifierOfValue_normalize (name : String) :
    identifierOfValue (.str (normalize name)) = identifierOfValue (.str name) := by
  by_cases h : name = ""
  · subst h
    rfl
  · have hn : normalize name ≠ "" := mt (normalize_eq_empty_iff name).1 h
    simp only [identifierOfValue, Value.truthy, bne_iff_ne, ne_eq, hn, h, not_false_eq_true,
      if_true]
    exact identifier?_normalize name h

/-! ## Longer identifiers -/

theorem isIdentifierPart_underscore : isIdentifierPart '_' = true := by decide +kernel

/-- What is put behind a text does not change whether it is an identifier, if it could stand in
one. -/
theorem isIdentifier_append {name behind : String} (hname : name ≠ "")
    (hbehind : ∀ c ∈ behind.toList, isIdentifierPart c = true) :
    isIdentifier (name ++ behind) = isIdentifier name := by
  rw [isIdentifier, isIdentifier, String.toList_append]
  cases hcs : name.toList with
  | nil => exact absurd (String.toList_eq_nil_iff.1 hcs) hname
  | cons c rest =>
    have hall : behind.toList.all isIdentifierPart = true := List.all_eq_true.2 hbehind
    simp only [List.cons_append, List.all_append, hall, Bool.and_true]

/-- The digits of a number are digits. -/
theorem isDigit_of_mem_digitText {n : Nat} {c : Char} (h : c ∈ (Decimal.digitText n).toList) :
    c.isDigit = true := by
  rw [Decimal.digitText, String.toList_ofList] at h
  exact Nat.isDigit_of_mem_toDigits (by decide) (by decide) h

/-- A digit may stand anywhere in an identifier but in front. -/
theorem isIdentifierPart_of_isDigit {c : Char} (h : c.isDigit = true) :
    isIdentifierPart c = true := by
  rw [Char.isDigit, Bool.and_eq_true, decide_eq_true_eq, decide_eq_true_eq] at h
  exact Ranges.has_of_first h.1 h.2

/-- **A number behind a name changes nothing about its being an identifier.** So what holds for a
name holds for the names that are tried after it. -/
theorem isIdentifier_numbered {name : String} (hname : name ≠ "") (k : Nat) :
    isIdentifier (numbered name k) = isIdentifier name :=
  isIdentifier_append hname fun _ hc =>
    isIdentifierPart_of_isDigit (isDigit_of_mem_digitText hc)

/-! ## Reserved words -/

/-- A word is reserved if it is in the list. -/
theorem isReserved_iff {name : String} : isReserved name = true ↔ name ∈ reservedWords :=
  List.contains_iff_mem

/-- All reserved words are made of plain letters, which is seen by going through the list. -/
theorem reservedWords_letters :
    (reservedWords.all fun word => word.toList.all Char.isAlpha) = true := by
  decide +kernel

/-- A name with anything but a letter in it is not reserved. -/
theorem isReserved_eq_false {name : String} {c : Char} (hc : c ∈ name.toList)
    (hletter : c.isAlpha = false) : isReserved name = false := by
  rw [← Bool.not_eq_true, isReserved_iff]
  intro hmem
  -- the word would be in the list, and all its characters letters
  have hall := List.all_eq_true.1 reservedWords_letters name hmem
  rw [List.all_eq_true.1 hall c hc] at hletter
  exact nomatch hletter

/-- Putting an underscore behind a reserved word leads to a name that is not reserved, as no
reserved word has an underscore in it. -/
theorem isReserved_unreserved (name : String) : isReserved (unreserved name) = false := by
  rw [unreserved]
  split
  · refine isReserved_eq_false (c := '_') ?_ rfl
    rw [String.toList_append]
    exact List.mem_append_right _ (List.mem_singleton_self _)
  · next h => exact Bool.not_eq_true _ ▸ h

/-- A digit is no letter. -/
theorem isAlpha_eq_false_of_isDigit {c : Char} (h : c.isDigit = true) : c.isAlpha = false := by
  have hdigit : (decide ('0'.val ≤ c.val) && decide (c.val ≤ '9'.val)) = true := h
  have halpha : ¬ (decide ('A'.val ≤ c.val ∧ c.val ≤ 'Z'.val) ||
      (decide ('a'.val ≤ c.val) && decide (c.val ≤ 'z'.val))) = true := by
    simp only [Bool.or_eq_true, Bool.and_eq_true, decide_eq_true_eq, UInt32.le_iff_toNat_le,
      Char.reduceVal, UInt32.reduceToNat] at hdigit ⊢
    omega
  exact Bool.not_eq_true _ ▸ halpha

/-- A number behind a name keeps it from being reserved. -/
theorem isReserved_numbered (name : String) (k : Nat) : isReserved (numbered name k) = false := by
  obtain ⟨c, hc⟩ := List.exists_mem_of_ne_nil (Decimal.digitText k).toList (by
    rw [Decimal.digitText, String.toList_ofList]
    exact Nat.toDigits_ne_nil)
  refine isReserved_eq_false (c := c) ?_
    (isAlpha_eq_false_of_isDigit (isDigit_of_mem_digitText hc))
  rw [numbered, String.toList_append]
  exact List.mem_append_right _ hc

/-- The underscore behind a reserved word makes no difference to its being an identifier. -/
theorem isIdentifier_unreserved {name : String} (hname : name ≠ "") :
    isIdentifier (unreserved name) = isIdentifier name := by
  rw [unreserved]
  split
  · refine isIdentifier_append hname fun c hc => ?_
    rw [List.mem_singleton.1 hc]
    exact isIdentifierPart_underscore
  · rfl

/-! ## Names that are clean -/

/-- A word character of a name that may stand in an identifier. Others are replaced. -/
def PartClean (c : Char) : Prop :=
  isWordChar c = true → isIdentifierPart c = true

/-- The first character of a name, if it is one of a word, may begin an identifier or, if an
underscore is put before it, go on with one. -/
def FirstClean (c : Char) : Prop :=
  isWordChar c = true →
    if isDigitSign c then isIdentifierPart c = true else isIdentifierStart c = true

/-- All characters of a name are kept or replaced so that an identifier comes of it. -/
def Clean (name : String) : Prop :=
  match name.toList with
  | [] => True
  | c :: rest => FirstClean c ∧ ∀ d ∈ rest, PartClean d

/-- What becomes of a character may stand in an identifier exactly if the character is clean: one
that is replaced always may, and one that is kept only if it may itself. -/
theorem isIdentifierPart_kept_iff (c : Char) : isIdentifierPart (kept c) = true ↔ PartClean c := by
  rw [kept, PartClean]
  split
  · next h => exact ⟨fun hpart _ => hpart, fun hclean => hclean h⟩
  · next h => exact ⟨fun _ hword => absurd hword h, fun _ => isIdentifierPart_underscore⟩

/-- A name with its characters replaced and its front guarded is an identifier exactly if it is
clean. The first character is the only one for which it matters whether it is a digit. -/
theorem isIdentifier_guarded_iff (c : Char) (rest : List Char) :
    isIdentifier (String.ofList (guarded (substituted (c :: rest)))) = true ↔
      FirstClean c ∧ ∀ d ∈ rest, PartClean d := by
  have hrest : (rest.map kept).all isIdentifierPart = true ↔ ∀ d ∈ rest, PartClean d := by
    rw [List.all_map, List.all_eq_true]
    exact forall₂_congr fun d _ => isIdentifierPart_kept_iff d
  rw [substituted_eq_map, List.map_cons, guarded, isIdentifier, FirstClean, ← hrest]
  -- the first character is kept, and then guarded if it is a digit, or it is replaced and needs
  -- no guard
  by_cases hword : isWordChar c = true
  · have hkept : kept c = c := if_pos hword
    rw [hkept]
    by_cases hdigit : isDigitSign c = true
    · -- the underscore in front is a beginning, and the digit has to be a part
      rw [if_pos hdigit, if_pos hdigit, String.toList_ofList]
      simp only [List.all_cons, Bool.and_eq_true, hword, true_implies]
      exact and_iff_right (by decide)
    · rw [if_neg hdigit, if_neg hdigit, String.toList_ofList]
      simp only [Bool.and_eq_true, hword, true_implies]
  · have hkept : kept c = '_' := if_neg hword
    have hdigit : ¬ isDigitSign '_' = true := by decide
    rw [hkept, if_neg hdigit, String.toList_ofList]
    have hstart : isIdentifierStart '_' = true := by decide
    simp only [hstart, Bool.true_and]
    exact (and_iff_right fun h => absurd h hword).symm

/-- Guarding the front of a name may put something there but takes nothing away. -/
theorem guarded_ne_nil {cs : List Char} (h : cs ≠ []) : guarded cs ≠ [] := by
  cases cs with
  | nil => exact h
  | cons c rest =>
    rw [guarded]
    split
    · exact List.cons_ne_nil _ _
    · exact List.cons_ne_nil _ _

/-- The identifier as it is before reserved words are told apart. -/
theorem identifier?_eq_ok_iff {raw name : String} :
    identifier? raw = .ok name ↔
      raw ≠ "" ∧ unreserved (String.ofList (guarded (substituted raw.toList))) = name := by
  rw [identifier?]
  split
  · next h => exact ⟨fun hok => (nomatch hok), fun hok => absurd h hok.1⟩
  · next h => exact ⟨fun hok => ⟨h, Except.ok.inj hok⟩, fun hok => congrArg Except.ok hok.2⟩

/-- Of a name with characters in it something is left. -/
theorem guarded_substituted_ne_empty {raw : String} (h : raw ≠ "") :
    String.ofList (guarded (substituted raw.toList)) ≠ "" := by
  rw [ne_eq, String.ofList_eq_empty_iff, substituted_eq_map]
  refine guarded_ne_nil ?_
  rw [ne_eq, List.map_eq_nil_iff, String.toList_eq_nil_iff]
  exact h

/-- **Of a name an identifier is made just when it is clean.** -/
theorem isIdentifier_iff_of_identifier? {raw name : String} (h : identifier? raw = .ok name) :
    isIdentifier name = true ↔ Clean raw := by
  obtain ⟨hraw, rfl⟩ := identifier?_eq_ok_iff.1 h
  rw [isIdentifier_unreserved (guarded_substituted_ne_empty hraw), Clean]
  cases hcs : raw.toList with
  | nil => exact absurd (String.toList_eq_nil_iff.1 hcs) hraw
  | cons c rest => exact isIdentifier_guarded_iff c rest

/-- **Whatever comes out as an identifier is not reserved**, clean or not. -/
theorem isReserved_of_identifier? {raw name : String} (h : identifier? raw = .ok name) :
    isReserved name = false := by
  obtain ⟨_, rfl⟩ := identifier?_eq_ok_iff.1 h
  exact isReserved_unreserved _

/-- What comes out as an identifier has characters in it, even if it is none. -/
theorem ne_empty_of_identifier? {raw name : String} (h : identifier? raw = .ok name) :
    name ≠ "" := by
  obtain ⟨hraw, rfl⟩ := identifier?_eq_ok_iff.1 h
  rw [unreserved]
  split
  · rw [ne_eq, String.append_eq_empty_iff]
    exact fun hempty => guarded_substituted_ne_empty hraw hempty.1
  · exact guarded_substituted_ne_empty hraw

/-! ## Names that are given -/

/-- The name that is given in the end is an identifier if the name that was asked for is, since
they are the same or differ by a number behind. -/
theorem Given.isIdentifier_eq {taken : List String} {base name : String}
    (h : Given taken base name) (hbase : base ≠ "") : isIdentifier name = isIdentifier base := by
  rcases h with ⟨_, rfl⟩ | ⟨_, k, _, rfl, _⟩
  · rfl
  · exact isIdentifier_numbered hbase k

/-- And it is not reserved if that name is not. -/
theorem Given.isReserved_eq_false {taken : List String} {base name : String}
    (h : Given taken base name) (hbase : isReserved base = false) : isReserved name = false := by
  rcases h with ⟨_, rfl⟩ | ⟨_, k, _, rfl, _⟩
  · exact hbase
  · exact isReserved_numbered base k

end Name

end ApiOutline
