/-
What camel case is made of.

The words of a name have no separators in them, so nothing that is written between words can come
into its camel case. What the case of the letters does is another matter. Lowering a dotted capital
`I` leaves its dot behind, and raising the first letter of a word may write its accent apart. So the
camel case of a name consists of alphanumeric characters and of marks, each brought along by a
letter of the name (`Brings`), and there are no marks in it exactly if no letter stands where it
brings one (`Unmarked`).

No word is empty and no letter disappears: camel case is empty only where there are no words.
-/
import ApiOutline.Proofs.Name.Words
import ApiOutline.Proofs.Text.CaseForms

set_option autoImplicit false

namespace ApiOutline.Name

open Text (isAlphanumeric isMark dottedCapital isAccented)

/-! ## Words -/

/-- The words of a name consist of its alphanumeric characters. -/
theorem mem_of_mem_wordsOf {cs word : List Char} {c : Char} (hword : word ∈ wordsOf cs)
    (hc : c ∈ word) : c ∈ cs ∧ isAlphanumeric c = true := by
  have hmem : c ∈ (wordsOf cs).flatten := List.mem_flatten.2 ⟨word, hword, hc⟩
  rw [flatten_wordsOf] at hmem
  exact List.mem_filter.1 hmem

/-- A name has no words just when it has no alphanumeric characters. -/
theorem wordsOf_eq_nil_iff {cs : List Char} :
    wordsOf cs = [] ↔ ∀ c ∈ cs, isAlphanumeric c = false := by
  constructor
  · intro hnil c hc
    have hfilter := flatten_wordsOf cs
    rw [hnil, List.flatten_nil] at hfilter
    exact Bool.eq_false_iff.2 (List.filter_eq_nil_iff.1 hfilter.symm c hc)
  · intro hcs
    refine List.eq_nil_iff_forall_not_mem.2 fun word hword => ?_
    obtain ⟨c, hc⟩ := List.exists_mem_of_ne_nil word (ne_nil_of_mem_wordsOf hword)
    obtain ⟨hmem, hc⟩ := mem_of_mem_wordsOf hword hc
    rw [hcs c hmem] at hc
    exact nomatch hc

/-- The first word is lowered, the others begin with a raised letter. -/
theorem toList_camelCase {name : String} {word : List Char} {others : List (List Char)}
    (h : wordsOf name.toList = word :: others) :
    (camelCase name).toList = Text.lowerChars word ++ capitalizedJoin others := by
  rw [camelCase, h]
  exact String.toList_ofList

/-! ## Marks -/

/-- A letter brings a mark along, in its small form or in the form in which it begins a word. -/
def Brings (c mark : Char) : Prop :=
  isMark mark = true ∧
    (c = dottedCapital ∧ mark ∈ Text.smallForm c ∨ isAccented c = true ∧ mark ∈ Text.titleForm c)

/-- A word with its first letter raised is alphanumeric, but for marks that a letter of the word
brings along. -/
theorem mem_capitalizeChars {word : List Char} (hword : ∀ c ∈ word, isAlphanumeric c = true)
    {d : Char} (hd : d ∈ Text.capitalizeChars word) :
    isAlphanumeric d = true ∨ ∃ c ∈ word, Brings c d := by
  cases word with
  | nil => exact nomatch hd
  | cons c rest =>
    have hrest : ∀ c ∈ rest, isAlphanumeric c = true := fun c hc =>
      hword c (List.mem_cons_of_mem _ hc)
    rw [Text.capitalizeChars] at hd
    rcases List.mem_append.1 hd with hd | hd
    · refine (Text.mem_titleForm (hword c List.mem_cons_self) hd).imp_right ?_
      rintro ⟨hmark, haccented⟩
      exact ⟨c, List.mem_cons_self, hmark, .inr ⟨haccented, hd⟩⟩
    · refine (Text.mem_smallFormsAfter hrest hd).imp_right ?_
      rintro ⟨hmark, hmem, hform⟩
      exact ⟨dottedCapital, List.mem_cons_of_mem _ hmem, hmark, .inl ⟨rfl, hform⟩⟩

/-- No letter of these words brings a mark along in camel case: none of the first word is a dotted
capital, and of the others none begins with an accented letter or has a dotted capital further
on. -/
def Unmarked : List (List Char) → Prop
  | [] => True
  | first :: others =>
    dottedCapital ∉ first ∧
      ∀ word ∈ others, (∀ c ∈ word.head?, isAccented c = false) ∧ dottedCapital ∉ word.tail

/-- It is alphanumeric without exception just when it does not begin with an accented letter and
has no dotted capital behind the first one. -/
theorem forall_mem_capitalizeChars_iff {word : List Char}
    (hword : ∀ c ∈ word, isAlphanumeric c = true) :
    (∀ d ∈ Text.capitalizeChars word, isAlphanumeric d = true) ↔
      (∀ c ∈ word.head?, isAccented c = false) ∧ dottedCapital ∉ word.tail := by
  cases word with
  | nil => exact iff_of_true (fun d hd => nomatch hd) ⟨fun c hc => (nomatch hc), fun h => nomatch h⟩
  | cons c rest =>
    have hrest : ∀ c ∈ rest, isAlphanumeric c = true := fun c hc =>
      hword c (List.mem_cons_of_mem _ hc)
    have hhead : (∀ d ∈ (c :: rest).head?, isAccented d = false) ↔ isAccented c = false :=
      ⟨fun h => h c rfl, fun h d hd => Option.some.inj hd ▸ h⟩
    rw [Text.capitalizeChars, List.forall_mem_append,
      Text.forall_mem_titleForm_iff (hword c List.mem_cons_self),
      Text.forall_mem_smallFormsAfter_iff hrest, hhead, List.tail_cons]

/-! ## Camel case -/

/-- **Camel case is alphanumeric but for the marks that letters bring along**, there are such
marks exactly where a letter stands that brings one, and nothing is left only of a name without
words. The first word is lowered and the others are raised, so the letters that matter are others
in the first word than behind it. -/
theorem camelCase_alphanumeric (name : String) :
    (∀ d ∈ (camelCase name).toList, isAlphanumeric d = true ∨ ∃ c ∈ name.toList, Brings c d) ∧
      ((∀ d ∈ (camelCase name).toList, isAlphanumeric d = true) ↔
        Unmarked (wordsOf name.toList)) ∧
      (camelCase name = "" ↔ ∀ c ∈ name.toList, isAlphanumeric c = false) := by
  rw [← wordsOf_eq_nil_iff]
  cases hwords : wordsOf name.toList with
  | nil =>
    have hempty : camelCase name = "" := by rw [camelCase, hwords]
    rw [hempty]
    exact ⟨fun d hd => (nomatch hd), iff_of_true (fun d hd => nomatch hd) trivial,
      iff_of_true rfl rfl⟩
  | cons first others =>
    have hin : ∀ word ∈ first :: others, ∀ c ∈ word, c ∈ name.toList ∧ isAlphanumeric c = true :=
      fun word hword c hc => mem_of_mem_wordsOf (hwords ▸ hword) hc
    have hfirst := hin first List.mem_cons_self
    have hothers := fun word hword => hin word (List.mem_cons_of_mem first hword)
    refine ⟨?_, ?_, ?_⟩
    · intro d hd
      rw [toList_camelCase hwords] at hd
      rcases List.mem_append.1 hd with hd | hd
      · refine (Text.mem_smallFormsAfter (fun c hc => (hfirst c hc).2) hd).imp_right ?_
        rintro ⟨hmark, hmem, hform⟩
        exact ⟨dottedCapital, (hfirst _ hmem).1, hmark, .inl ⟨rfl, hform⟩⟩
      · obtain ⟨word, hword, hd⟩ := List.mem_flatMap.1 hd
        have hletters := hothers word hword
        refine (mem_capitalizeChars (fun c hc => (hletters c hc).2) hd).imp_right ?_
        rintro ⟨c, hc, hbrings⟩
        exact ⟨c, (hletters c hc).1, hbrings⟩
    · rw [toList_camelCase hwords, List.forall_mem_append, Unmarked]
      refine and_congr (Text.forall_mem_smallFormsAfter_iff fun c hc => (hfirst c hc).2) ?_
      rw [capitalizedJoin, List.forall_mem_flatMap]
      exact forall₂_congr fun word hword =>
        forall_mem_capitalizeChars_iff fun c hc => (hothers word hword c hc).2
    · refine iff_of_false (fun hempty => ?_) (List.cons_ne_nil first others)
      have hlist := toList_camelCase hwords
      rw [hempty] at hlist
      -- the first word is not empty, and neither is it in small letters
      have hlower : Text.lower (String.ofList first) = "" := by
        rw [Text.lower, String.toList_ofList, (List.append_eq_nil_iff.1 hlist.symm).1]
      have hnil := String.ofList_eq_empty_iff.1 (Text.lower_eq_empty_iff.1 hlower)
      exact ne_nil_of_mem_wordsOf (hwords ▸ List.mem_cons_self) hnil

/-- The dot of a dotted capital is no alphanumeric character, and it stays when the letter is made
small. -/
theorem not_camelCase_alphanumeric :
    ¬ ∀ name : String, (∀ d ∈ (camelCase name).toList, isAlphanumeric d = true) ∧
      (camelCase name = "" ↔ ∀ c ∈ name.toList, isAlphanumeric c = false) := by
  intro h
  have hdot := (h "İ").1 '\u0307' (by decide +kernel)
  exact absurd hdot (by decide +kernel)

end ApiOutline.Name
