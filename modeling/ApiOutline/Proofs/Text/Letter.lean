/-
Small letters that come of one letter only.

Where a text in small letters is known, what it was before is known only in part: the Kelvin sign
has a `k` for its small form, and a dotted capital `I` two characters. But most letters are the
small form of themselves and of one capital, and of nothing else, not even as a part. That cannot be
seen from the letter; it is a fact about the table of shifts, looked up backwards (`Sole`). A text
whose small form begins with such letters begins with them or their capitals
(`Sole.of_smallFormsAfter`).

One thing is known of every text: letters may become several, but none disappears. So a text that
is empty in small letters or in capitals was empty before (`lower_eq_empty_iff`).
-/
import ApiOutline.Text.Letter

set_option autoImplicit false

namespace ApiOutline.Text

/-- The table of small forms leads to `small` from `capital` only, and both have it alone for their
small form and `capital` alone for their capital one. -/
structure Sole (small capital : Char) : Prop where
  shifts : (smallShifts.all fun s =>
    !s.letters.has ((small.toNat : Int) - s.distance).toNat ||
      ((small.toNat : Int) - s.distance).toNat == capital.toNat) = true
  expansions : (smallExpansions.all fun e => e.2.head? != some small.toNat) = true
  capital_small : smallForm capital = [small]
  small_small : smallForm small = [small]
  capital_capital : capitalForm capital = [capital]
  small_capital : capitalForm small = [capital]
  ne_zero : small.toNat ≠ 0
  ne_sigma : small ≠ 'σ' ∧ small ≠ 'ς'

instance (small capital : Char) : Decidable (Sole small capital) :=
  decidable_of_iff
    (((smallShifts.all fun s =>
      !s.letters.has ((small.toNat : Int) - s.distance).toNat ||
        ((small.toNat : Int) - s.distance).toNat == capital.toNat) = true ∧
      (smallExpansions.all fun e => e.2.head? != some small.toNat) = true) ∧
      (smallForm capital = [small] ∧ smallForm small = [small]) ∧
      (capitalForm capital = [capital] ∧ capitalForm small = [capital]) ∧
      small.toNat ≠ 0 ∧ small ≠ 'σ' ∧ small ≠ 'ς')
    ⟨fun ⟨⟨h₁, h₂⟩, ⟨h₃, h₄⟩, ⟨h₅, h₆⟩, h₇, h₈⟩ => ⟨h₁, h₂, h₃, h₄, h₅, h₆, h₇, h₈⟩,
      fun h => ⟨⟨h.shifts, h.expansions⟩, ⟨h.capital_small, h.small_small⟩,
        ⟨h.capital_capital, h.small_capital⟩, h.ne_zero, h.ne_sigma⟩⟩

/-- A number that makes a character is the number of that character, except for those that make
none and are read as zero. -/
theorem eq_toNat_of_ofNat_eq {n : Nat} {c : Char} (h : Char.ofNat n = c) (hc : c.toNat ≠ 0) :
    n = c.toNat := by
  by_cases hvalid : n.isValidChar
  · rw [Char.ofNat, dif_pos hvalid] at h
    rw [← h]
    rfl
  · rw [Char.ofNat, dif_neg hvalid] at h
    rw [← h] at hc
    exact absurd rfl hc

/-- What is found in a table is in it. -/
theorem mem_of_lookup {β : Type} {key : Nat} {value : β} {entries : List (Nat × β)}
    (h : entries.lookup key = some value) : (key, value) ∈ entries := by
  obtain ⟨before, after, rfl, _⟩ := List.lookup_eq_some_iff.1 h
  exact List.mem_append_right before List.mem_cons_self

/-- No character disappears: it becomes at least one other, if the table of expansions says so. -/
theorem mapLetter_ne_nil {expansions : List (Nat × List Nat)}
    (h : (expansions.all fun e => !e.2.isEmpty) = true) (shifts : List Shift) (c : Char) :
    mapLetter expansions shifts c ≠ [] := by
  rw [mapLetter]
  split
  · next codes hcodes =>
    have hall := List.all_eq_true.1 h _ (mem_of_lookup hcodes)
    rw [ne_eq, List.map_eq_nil_iff, ← List.isEmpty_iff]
    exact fun hempty => by rw [hempty] at hall; exact nomatch hall
  · split
    · exact List.cons_ne_nil _ _
    · exact List.cons_ne_nil _ _

/-- A small form is never empty. -/
theorem smallForm_ne_nil (c : Char) : smallForm c ≠ [] :=
  mapLetter_ne_nil (by decide) smallShifts c

/-- Nor is a capital form. -/
theorem capitalForm_ne_nil (c : Char) : capitalForm c ≠ [] :=
  mapLetter_ne_nil (by decide) capitalShifts c

/-- Only the empty text is empty in small letters. -/
theorem lower_eq_empty_iff {s : String} : lower s = "" ↔ s = "" := by
  rw [lower, lowerChars, String.ofList_eq_empty_iff, ← String.toList_eq_nil_iff]
  -- one character is enough to leave something behind
  cases s.toList with
  | nil => exact Iff.rfl
  | cons c rest =>
    have hform : ∀ form : List Char, form ≠ [] → form ++ smallFormsAfter [c] rest ≠ [] :=
      fun form hform happend => hform (List.append_eq_nil_iff.1 happend).1
    rw [smallFormsAfter]
    refine iff_of_false (hform _ ?_) (List.cons_ne_nil c rest)
    -- the sigma is the one letter whose small form is not looked up
    split
    · exact List.cons_ne_nil _ _
    · exact smallForm_ne_nil c

/-- Only the empty text is empty in capitals. -/
theorem upper_eq_empty_iff {s : String} : upper s = "" ↔ s = "" := by
  rw [upper, upperChars, String.ofList_eq_empty_iff, List.flatMap_eq_nil_iff,
    ← String.toList_eq_nil_iff, List.eq_nil_iff_forall_not_mem]
  exact forall₂_congr fun c _ => iff_of_false (capitalForm_ne_nil c) not_false

/-- A character whose small form begins with such a letter is the letter or its capital. An
expansion cannot begin with it, so it was moved by a shift or left as it is; and the table of
shifts leads to it from the capital only. -/
theorem Sole.of_smallForm {small capital : Char} (h : Sole small capital) {c : Char}
    {rest : List Char} (hc : smallForm c = small :: rest) : c = small ∨ c = capital := by
  rw [smallForm, mapLetter] at hc
  split at hc
  · next codes hcodes =>
    have hall := List.all_eq_true.1 h.expansions _ (mem_of_lookup hcodes)
    obtain ⟨code, others, rfl, hcode, _⟩ := List.map_eq_cons_iff.1 hc
    rw [List.head?_cons, eq_toNat_of_ofNat_eq hcode h.ne_zero, bne_self_eq_false] at hall
    exact nomatch hall
  · split at hc
    · next s hs =>
      have hmem := List.mem_of_find?_eq_some hs
      have hletters := List.find?_some hs
      have hcode := eq_toNat_of_ofNat_eq (List.cons.inj hc).1 h.ne_zero
      have hne := h.ne_zero
      -- the shift is undone to see where it came from
      have hback : ((small.toNat : Int) - s.distance).toNat = c.toNat := by omega
      have hall := List.all_eq_true.1 h.shifts s hmem
      rw [hback, hletters, Bool.not_true, Bool.false_or, beq_iff_eq] at hall
      exact .inr (Char.toNat_inj.1 hall)
    · exact .inl (List.cons.inj hc).1

/-- A text whose small form begins with such a letter begins with it or its capital. The sigma has
to be ruled out first, because its small form depends on what stands around it. All other
characters have one small form each. -/
theorem Sole.of_smallFormsAfter {small capital : Char} (h : Sole small capital)
    {before cs rest : List Char} (hcs : smallFormsAfter before cs = small :: rest) :
    ∃ c others, cs = c :: others ∧ capitalForm c = [capital] ∧
      smallFormsAfter (c :: before) others = rest := by
  cases cs with
  | nil => exact nomatch hcs
  | cons c others =>
    refine ⟨c, others, rfl, ?_⟩
    rw [smallFormsAfter] at hcs
    by_cases hsigma : c = 'Σ'
    · -- the sigma has other small forms, whichever of the two it is
      exfalso
      simp only [if_pos hsigma] at hcs
      have hhead := (List.cons.inj hcs).1
      split at hhead
      · exact h.ne_sigma.2 hhead.symm
      · exact h.ne_sigma.1 hhead.symm
    · simp only [if_neg hsigma] at hcs
      cases hform : smallForm c with
      | nil => exact absurd hform (smallForm_ne_nil c)
      | cons d form =>
        rw [hform] at hcs
        obtain ⟨rfl, hrest⟩ := List.cons.inj hcs
        rcases h.of_smallForm hform with rfl | rfl
        · rw [h.small_small] at hform
          rw [← (List.cons.inj hform).2] at hrest
          exact ⟨h.small_capital, hrest⟩
        · rw [h.capital_small] at hform
          rw [← (List.cons.inj hform).2] at hrest
          exact ⟨h.capital_capital, hrest⟩

/-- The first three letters of `parameters` come of themselves and their capitals only. That is
all that is needed to tell its key from the verbs. -/
theorem sole_par : Sole 'p' 'P' ∧ Sole 'a' 'A' ∧ Sole 'r' 'R' := by decide +kernel

/-- A text that becomes `par` and more in small letters becomes `PAR` and more in capitals. -/
theorem upperChars_of_lowerChars_par {cs rest : List Char}
    (h : lowerChars cs = 'p' :: 'a' :: 'r' :: rest) :
    ∃ others, upperChars cs = 'P' :: 'A' :: 'R' :: others := by
  obtain ⟨c, cs, rfl, hp, h⟩ := sole_par.1.of_smallFormsAfter h
  obtain ⟨d, cs, rfl, ha, h⟩ := sole_par.2.1.of_smallFormsAfter h
  obtain ⟨e, cs, rfl, hr, h⟩ := sole_par.2.2.of_smallFormsAfter h
  refine ⟨cs.flatMap capitalForm, ?_⟩
  rw [upperChars, List.flatMap_cons, List.flatMap_cons, List.flatMap_cons, hp, ha, hr]
  rfl

end ApiOutline.Text
