/-
Alphanumeric characters in another case.

Changing the case of a letter gives a letter again, but not always only a letter. The small form of
the dotted capital `I` is an `i` and a dot above it, and the form in which some letters begin a word
is a capital and an accent: there is no capital `ǰ`. The dot and the accents are marks, which are
not alphanumeric. These letters are few (`dottedCapital`, `isAccented`), and they are all of them.

That is a fact about the tables. A shift moves its letters together, so it is enough to know where
the first and the last of them come to stand (`Shift.keeps`); only letters between which others
stand that are not moved have to be looked at one by one. They come to stand among the cased
letters, which are alphanumeric but for those in circles and squares (`casedLetters`).
-/
import ApiOutline.Proofs.Text.Letter
import ApiOutline.Proofs.Text.Ranges
import ApiOutline.Text.Alphanumeric
import ApiOutline.Text.Mark

set_option autoImplicit false

namespace ApiOutline.Text

/-! ## Shifts -/

/-- The code points of a stripe, one after the other. -/
def Stripe.codes (s : Stripe) : List Nat :=
  (List.range ((s.last - s.first) / s.step + 1)).map fun i => s.first + s.step * i

/-- The code points of a stripe are listed by `Stripe.codes`, so a question about all of them can
be decided by looking through the list. -/
theorem Stripe.mem_codes_of_has {s : Stripe} {n : Nat} (h : s.has n = true) : n ∈ s.codes := by
  rw [Stripe.has, Bool.and_eq_true, Bool.and_eq_true, decide_eq_true_eq, decide_eq_true_eq,
    beq_iff_eq] at h
  obtain ⟨⟨hfirst, hlast⟩, hstep⟩ := h
  have hmul : s.step * ((n - s.first) / s.step) = n - s.first :=
    Nat.mul_div_cancel' (Nat.dvd_of_mod_eq_zero hstep)
  refine List.mem_map.2 ⟨(n - s.first) / s.step, List.mem_range.2 ?_, ?_⟩
  · exact Nat.lt_succ_of_le (Nat.div_le_div_right (by omega))
  · omega

/-- A stripe reaches from its first code point to its last. -/
theorem Stripe.bounds_of_has {s : Stripe} {n : Nat} (h : s.has n = true) :
    s.first ≤ n ∧ n ≤ s.last := by
  rw [Stripe.has, Bool.and_eq_true, Bool.and_eq_true, decide_eq_true_eq, decide_eq_true_eq] at h
  exact h.1

/-- Where a shift moves a code point. -/
def Shift.moved (s : Shift) (n : Nat) : Nat :=
  ((n : Int) + s.distance).toNat

/-! ## Cased letters -/

/-- Letters in circles and squares have a case, but are symbols. -/
def enclosedRanges : Ranges :=
  [(0x24B6, 0x24E9), (0x1F130, 0x1F149), (0x1F150, 0x1F169), (0x1F170, 0x1F189)]

/-- The characters with a case that are letters or numerals. -/
def casedLetters : Ranges :=
  casedRanges.filter fun r => !enclosedRanges.contains r

/-- **Cased letters are alphanumeric.** -/
theorem alphanumeric_of_casedLetters {n : Nat} (h : casedLetters.has n = true) :
    alphanumericRanges.has n = true := by
  have hascending : alphanumericRanges.Ascending := by decide +kernel
  exact hascending.has_of_has (by decide +kernel) h

/-- Every cased letter is a character. -/
theorem isValidChar_of_casedLetters {n : Nat} (h : casedLetters.has n = true) : n.isValidChar := by
  have hall : (casedLetters.all fun r =>
      Nat.blt r.2 0xD800 || (Nat.blt 0xDFFF r.1 && Nat.blt r.2 0x110000)) = true := by
    decide +kernel
  obtain ⟨r, hr, hlo, hhi⟩ := Ranges.mem_of_has h
  have hbounds := List.all_eq_true.1 hall r hr
  rw [Bool.or_eq_true, Bool.and_eq_true, Nat.blt_eq, Nat.blt_eq, Nat.blt_eq] at hbounds
  exact hbounds.imp (fun hlow => by omega) fun hhigh => ⟨by omega, by omega⟩

/-- What was said of code points, said of characters: the one with the code of a cased letter is
alphanumeric. -/
theorem isAlphanumeric_ofNat {n : Nat} (h : casedLetters.has n = true) :
    isAlphanumeric (Char.ofNat n) = true := by
  rw [isAlphanumeric, Char.ofNat, dif_pos (isValidChar_of_casedLetters h)]
  exact alphanumeric_of_casedLetters h

/-- Does a shift move alphanumeric letters to cased letters? -/
def Shift.keeps (s : Shift) : Bool :=
  casedLetters.spans (s.moved s.letters.first) (s.moved s.letters.last) ||
    alphanumericRanges.misses s.letters.first s.letters.last ||
    s.letters.codes.all fun n => casedLetters.has (s.moved n)

/-- A shift that passes the check `Shift.keeps` moves every alphanumeric letter to a cased one.
There are three ways to pass: the letters come to stand within one range, or none of them is
alphanumeric, or all have been looked at. -/
theorem Shift.has_moved {s : Shift} (h : s.keeps = true) {n : Nat}
    (hletter : s.letters.has n = true) (hn : alphanumericRanges.has n = true) :
    casedLetters.has (s.moved n) = true := by
  obtain ⟨hfirst, hlast⟩ := Stripe.bounds_of_has hletter
  rw [Shift.keeps, Bool.or_eq_true, Bool.or_eq_true] at h
  rcases h with (hspans | hmisses) | hall
  · exact Ranges.has_of_spans hspans (by simp only [moved]; omega) (by simp only [moved]; omega)
  · rw [Ranges.has_eq_false_of_misses hmisses hfirst hlast] at hn
    exact nomatch hn
  · exact List.all_eq_true.1 hall n (Stripe.mem_codes_of_has hletter)

/-- What an alphanumeric character becomes is alphanumeric, or the table of expansions has it. -/
theorem isAlphanumeric_of_mem_mapLetter {expansions : List (Nat × List Nat)} {shifts : List Shift}
    (hshifts : shifts.all Shift.keeps = true) {c d : Char}
    (hc : isAlphanumeric c = true) (hd : d ∈ mapLetter expansions shifts c) :
    isAlphanumeric d = true ∨
      ∃ codes, (c.toNat, codes) ∈ expansions ∧ d ∈ codes.map Char.ofNat := by
  rw [mapLetter] at hd
  -- an expansion, a shift, or the character itself
  split at hd
  · next codes hcodes => exact .inr ⟨codes, mem_of_lookup hcodes, hd⟩
  · split at hd
    · next s hs =>
      have hkeeps := List.all_eq_true.1 hshifts s (List.mem_of_find?_eq_some hs)
      have hletter := List.find?_some hs
      rw [List.mem_singleton.1 hd]
      exact .inl (isAlphanumeric_ofNat (Shift.has_moved hkeeps hletter hc))
    · rw [List.mem_singleton.1 hd]
      exact .inl hc

/-! ## Small forms -/

/-- The letter whose small form is a letter and a dot above it. -/
def dottedCapital : Char := 'İ'

/-- The small form of the dotted capital is two characters, the second of them a mark. -/
theorem smallForm_dottedCapital : smallForm dottedCapital = ['i', '\u0307'] := by decide

/-- All shifts to small letters pass the check. -/
theorem smallShifts_keep : smallShifts.all Shift.keeps = true := by decide +kernel

/-- Except for the dotted capital, an alphanumeric character has an alphanumeric small form. -/
theorem isAlphanumeric_of_mem_smallForm {c d : Char} (hc : isAlphanumeric c = true)
    (hne : c ≠ dottedCapital) (hd : d ∈ smallForm c) : isAlphanumeric d = true := by
  refine (isAlphanumeric_of_mem_mapLetter smallShifts_keep hc hd).resolve_right ?_
  rintro ⟨codes, hcodes, -⟩
  -- the table has one entry
  have hcode : c.toNat = 0x130 := (Prod.mk.inj (List.mem_singleton.1 hcodes)).1
  exact hne (Char.toNat_inj.1 hcode)

/-- The small letters of an alphanumeric text are alphanumeric, and dots where there was a dotted
capital. By induction along the text; a sigma has two small forms, both of them letters, and which
one it gets does not matter here. -/
theorem mem_smallFormsAfter {before cs : List Char} (hcs : ∀ c ∈ cs, isAlphanumeric c = true)
    {d : Char} (hd : d ∈ smallFormsAfter before cs) :
    isAlphanumeric d = true ∨
      isMark d = true ∧ dottedCapital ∈ cs ∧ d ∈ smallForm dottedCapital := by
  induction cs generalizing before with
  | nil => exact nomatch hd
  | cons c rest ih =>
    rw [smallFormsAfter] at hd
    rcases List.mem_append.1 hd with hd | hd
    · split at hd
      · -- a sigma
        rw [List.mem_singleton.1 hd]
        refine .inl ?_
        split <;> decide +kernel
      · by_cases hdotted : c = dottedCapital
        · have hmem : dottedCapital ∈ c :: rest := hdotted ▸ List.mem_cons_self
          rw [hdotted] at hd
          have hform := hd
          rw [smallForm_dottedCapital] at hd
          rcases List.mem_cons.1 hd with rfl | hd
          · exact .inl (by decide +kernel)
          · rw [List.mem_singleton.1 hd] at hform ⊢
            exact .inr ⟨by decide +kernel, hmem, hform⟩
        · exact .inl (isAlphanumeric_of_mem_smallForm (hcs c List.mem_cons_self) hdotted hd)
    · refine (ih (fun c hc => hcs c (List.mem_cons_of_mem _ hc)) hd).imp_right ?_
      rintro ⟨hmark, hmem, hform⟩
      exact ⟨hmark, List.mem_cons_of_mem _ hmem, hform⟩

/-- A dotted capital leaves its dot behind. -/
theorem mem_smallFormsAfter_of_dottedCapital {before cs : List Char} (h : dottedCapital ∈ cs) :
    '\u0307' ∈ smallFormsAfter before cs := by
  induction cs generalizing before with
  | nil => exact nomatch h
  | cons c rest ih =>
    rw [smallFormsAfter, List.mem_append]
    rcases List.mem_cons.1 h with rfl | h
    · rw [if_neg (by decide), smallForm_dottedCapital]
      exact .inl (by decide)
    · exact .inr (ih h)

/-- **An alphanumeric text without a dotted capital stays alphanumeric in small letters**, and no
other does. -/
theorem forall_mem_smallFormsAfter_iff {before cs : List Char}
    (hcs : ∀ c ∈ cs, isAlphanumeric c = true) :
    (∀ d ∈ smallFormsAfter before cs, isAlphanumeric d = true) ↔ dottedCapital ∉ cs := by
  constructor
  · intro hall hdotted
    exact absurd (hall _ (mem_smallFormsAfter_of_dottedCapital hdotted)) (by decide +kernel)
  · intro hdotted d hd
    exact (mem_smallFormsAfter hcs hd).resolve_right fun h => hdotted h.2.1

/-! ## The forms that begin a word -/

/-- The letters that begin a word in a form with a mark of its own. -/
def accentedCodes : List Nat :=
  [0x1F0, 0x390, 0x3B0, 0x1E96, 0x1E97, 0x1E98, 0x1E99, 0x1F50, 0x1F52, 0x1F54, 0x1F56, 0x1FB2,
    0x1FB4, 0x1FB6, 0x1FB7, 0x1FC2, 0x1FC4, 0x1FC6, 0x1FC7, 0x1FD2, 0x1FD3, 0x1FD6, 0x1FD7, 0x1FE2,
    0x1FE3, 0x1FE4, 0x1FE6, 0x1FE7, 0x1FF2, 0x1FF4, 0x1FF6, 0x1FF7]

/-- Does a letter begin a word in a form with a mark of its own? -/
def isAccented (c : Char) : Bool :=
  accentedCodes.contains c.toNat

/-- All shifts to the form that begins a word pass the check. -/
theorem titleShifts_keep : titleShifts.all Shift.keeps = true := by decide +kernel

/-- The form in which an alphanumeric character begins a word consists of alphanumeric characters,
and of marks only if the character is one of the accented letters. -/
theorem mem_titleForm {c d : Char} (hc : isAlphanumeric c = true) (hd : d ∈ titleForm c) :
    isAlphanumeric d = true ∨ isMark d = true ∧ isAccented c = true := by
  have hall : (titleExpansions.all fun e => e.2.all fun n =>
      isAlphanumeric (Char.ofNat n) || isMark (Char.ofNat n) && accentedCodes.contains e.1) =
        true := by
    decide +kernel
  rcases isAlphanumeric_of_mem_mapLetter titleShifts_keep hc hd with hd | ⟨codes, hcodes, hd⟩
  · exact .inl hd
  · obtain ⟨n, hn, rfl⟩ := List.mem_map.1 hd
    have hentry := List.all_eq_true.1 (List.all_eq_true.1 hall _ hcodes) n hn
    rw [Bool.or_eq_true, Bool.and_eq_true] at hentry
    exact hentry

/-- **An alphanumeric letter begins a word in an alphanumeric form** unless it is an accented
one. -/
theorem forall_mem_titleForm_iff {c : Char} (hc : isAlphanumeric c = true) :
    (∀ d ∈ titleForm c, isAlphanumeric d = true) ↔ isAccented c = false := by
  have hall : (accentedCodes.all fun n =>
      (titleForm (Char.ofNat n)).any fun d => !isAlphanumeric d) = true := by
    decide +kernel
  constructor
  -- each of the listed letters has a character in its form that is not alphanumeric
  · intro hform
    refine Bool.eq_false_iff.2 fun haccented => ?_
    have hany := List.all_eq_true.1 hall _ (List.contains_iff_mem.1 haccented)
    rw [Char.ofNat_toNat] at hany
    obtain ⟨d, hd, hnot⟩ := List.any_eq_true.1 hany
    rw [hform d hd] at hnot
    exact nomatch hnot
  · intro haccented d hd
    refine (mem_titleForm hc hd).resolve_right fun h => ?_
    rw [haccented] at h
    exact nomatch h.2

end ApiOutline.Text
