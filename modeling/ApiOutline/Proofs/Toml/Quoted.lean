/-
What was written in quotes is read back.

One character is written as itself, as a letter behind a backslash, or as its number behind one.
The reader meets the writing twice. It first looks for the closing quote, and for that nothing
matters but that no piece of the writing closes the text: a quote stands behind a backslash, and
the character behind a backslash is passed over (`upTo_written`). Then it takes the escapes back,
one character at a time (`unescape_written`); a number is read from as many digits as it was written
with, because no character has a larger one. As a statement about the `toml` library this is one
about texts that it writes as `escapeChar` does; it changes or refuses some others.

Three quotes would open a long text. The writing opens with one quote, and a second one follows only
if the text is empty, so that there are three only if something behind the text is the third.
-/
import ApiOutline.Toml.Quoted
import Mathlib.Algebra.GroupWithZero.Nat

set_option autoImplicit false

namespace ApiOutline

/-! ## Numbers in hexadecimal -/

namespace Text

/-- The digits of a number in base sixteen are digits of numbers below sixteen. The induction is
on the number, which loses its last digit. -/
theorem exists_of_mem_toDigits {n : Nat} {c : Char} (h : c ∈ Nat.toDigits 16 n) :
    ∃ d < 16, c = Nat.digitChar d := by
  induction n using Nat.strongRecOn with
  | ind n ih =>
    rw [Nat.toDigits_eq_if (by omega)] at h
    by_cases hn : n < 16
    · rw [if_pos hn, List.mem_singleton] at h
      exact ⟨n, hn, h⟩
    · rw [if_neg hn, List.mem_append, List.mem_singleton] at h
      rcases h with h | h
      · exact ih (n / 16) (by omega) h
      · exact ⟨n % 16, by omega, h⟩

/-- The same for a number written to a fixed width: what stands in front of the digits are zeros.
-/
theorem exists_of_mem_hexText {width n : Nat} {c : Char} (h : c ∈ (hexText width n).toList) :
    ∃ d < 16, c = Nat.digitChar d := by
  rw [hexText, Decimal.padded, String.toList_append, String.toList_ofList, String.toList_ofList,
    List.mem_append, List.mem_replicate] at h
  rcases h with ⟨-, rfl⟩ | h
  · exact ⟨0, by omega, rfl⟩
  · exact exists_of_mem_toDigits h

/-- A number that has so many digits or fewer is written with exactly so many, since zeros fill
the width up. -/
theorem length_hexText {width n : Nat} (hwidth : 0 < width) (h : n < 16 ^ width) :
    (hexText width n).toList.length = width := by
  -- zeros are put in front only if there are fewer digits than that
  have hdigits : (Nat.toDigits 16 n).length ≤ width :=
    (Nat.length_toDigits_le_iff (by omega) hwidth).2 h
  rw [hexText, Decimal.padded, String.toList_append, String.toList_ofList, String.toList_ofList,
    List.length_append, List.length_replicate, String.length_ofList]
  omega

/-- The number read so far, after one more digit. -/
def addDigit (n? : Option Nat) (c : Char) : Option Nat :=
  n?.bind fun n => (digitIn? 16 c).map (n * 16 + ·)

/-- A digit is worth what it stands for, and moves the digits before it up by one place. There are
sixteen of them to look at. -/
theorem addDigit_digitChar (n : Nat) : ∀ d < 16,
    addDigit (some n) (Nat.digitChar d) = some (n * 16 + d) := by
  intro d hd
  have hdigit : ∀ d < 16, digitIn? 16 (Nat.digitChar d) = some d := by decide
  rw [addDigit, Option.bind_some, hdigit d hd, Option.map_some]

/-- The digits of a number add up to the number, the highest digit first. -/
theorem foldl_addDigit_toDigits (n : Nat) :
    (Nat.toDigits 16 n).foldl addDigit (some 0) = some n := by
  induction n using Nat.strongRecOn with
  | ind n ih =>
    rw [Nat.toDigits_eq_if (by omega)]
    by_cases hn : n < 16
    · rw [if_pos hn, List.foldl_cons, List.foldl_nil, addDigit_digitChar 0 n hn, Nat.zero_mul,
        Nat.zero_add]
    · rw [if_neg hn, List.foldl_append, ih (n / 16) (by omega), List.foldl_cons, List.foldl_nil,
        addDigit_digitChar _ _ (by omega), Nat.div_add_mod']

/-- Zeros in front of a number add nothing to it. -/
theorem foldl_addDigit_zeros (k : Nat) :
    (List.replicate k '0').foldl addDigit (some 0) = some 0 := by
  induction k with
  | zero => rfl
  | succ k ih =>
    rw [List.replicate_succ, List.foldl_cons]
    exact ih

/-- **A number in hexadecimal is read back.** The zeros in front, which fill it up to its width,
add nothing to it. -/
theorem numeral_hexText (width n : Nat) : numeral? 16 (hexText width n).toList = some n := by
  have hnil : (hexText width n).toList ≠ [] := by
    rw [hexText, Decimal.padded, String.toList_append, String.toList_ofList, String.toList_ofList]
    exact List.append_ne_nil_of_right_ne_nil _ Nat.toDigits_ne_nil
  have hfold : (hexText width n).toList.foldl addDigit (some 0) = some n := by
    rw [hexText, Decimal.padded, String.toList_append, String.toList_ofList, String.toList_ofList,
      List.foldl_append, foldl_addDigit_zeros, foldl_addDigit_toDigits]
  obtain ⟨c, cs, hcs⟩ := List.exists_cons_of_ne_nil hnil
  rw [hcs] at hfold ⊢
  exact hfold

end Text

namespace Toml

/-! ## Looking for the closing quote -/

/-- A character that neither closes a text, with its line or before, nor escapes anything in it. -/
def PassedOver (c : Char) : Prop := c ≠ '\x22' ∧ c ≠ '\\' ∧ c ≠ '\n'

/-- The same search one piece further on: the piece belongs to the text. -/
def further (piece : List Char) (found : Option (List Char × List Char)) :
    Option (List Char × List Char) :=
  found.map fun (s, behind) => (piece ++ s, behind)

/-- Two pieces in a row belong to a text as the one piece that they make up. -/
theorem further_further (as bs : List Char) (found : Option (List Char × List Char)) :
    further as (further bs found) = further (as ++ bs) found := by
  cases found with
  | none => rfl
  | some f => exact congrArg (fun s => some (s, f.2)) (List.append_assoc as bs f.1).symm

/-- Any other character than a quote does not close the text. -/
theorem after_quote {c : Char} (hc : c ≠ '\x22') (rest : List Char) :
    Text.after? ['\x22'] (c :: rest) = none := by
  rw [Text.after?, if_neg hc.symm]

/-- A quote closes the text, and what stands behind it is the rest. -/
theorem upTo_quote (rest : List Char) :
    upTo .double ['\x22'] false ('\x22' :: rest) = some ([], rest) := rfl

/-- A character without a meaning to the search is a piece of the text, and the search goes on
behind it. -/
theorem upTo_passedOver {c : Char} (hc : PassedOver c) (rest : List Char) :
    upTo .double ['\x22'] false (c :: rest) = further [c] (upTo .double ['\x22'] false rest) := by
  obtain ⟨hquote, hbackslash, hbreak⟩ := hc
  rw [upTo.eq_3 _ _ _ _ _ fun _ _ _ h _ => hbackslash h, after_quote hquote]
  dsimp only
  rw [if_neg (by simp only [beq_eq_false_iff_ne.2 hbreak, Bool.false_and, Bool.false_eq_true,
    not_false_eq_true])]
  rfl

/-- A backslash takes the character behind it along, be it a quote. Only the end of the line is
not taken. -/
theorem upTo_escape {c : Char} (hc : c ≠ '\n') (rest : List Char) :
    upTo .double ['\x22'] false ('\\' :: c :: rest) =
      further ['\\', c] (upTo .double ['\x22'] false rest) := by
  rw [upTo.eq_2, after_quote (by decide)]
  dsimp only
  rw [if_neg (by decide), if_neg (by simp only [beq_eq_false_iff_ne.2 hc, Bool.false_and,
    Bool.false_eq_true, not_false_eq_true])]
  rfl

/-- Several characters without a meaning to the search, one after the other. -/
theorem upTo_append {cs : List Char} (h : ∀ c ∈ cs, PassedOver c) (rest : List Char) :
    upTo .double ['\x22'] false (cs ++ rest) = further cs (upTo .double ['\x22'] false rest) := by
  induction cs with
  | nil =>
    rw [List.nil_append, further]
    exact Option.map_id'.symm
  | cons c cs ih =>
    rw [List.cons_append, upTo_passedOver (h c List.mem_cons_self),
      ih fun c hc => h c (List.mem_cons_of_mem _ hc), further_further, List.singleton_append]

/-- The digits of a number close nothing and escape nothing, so the search runs over a number to
its end. -/
theorem passedOver_of_mem_hexText {width n : Nat} {c : Char}
    (h : c ∈ (Text.hexText width n).toList) : PassedOver c := by
  have hdigits : ∀ d < 16, Nat.digitChar d ≠ '\x22' ∧ Nat.digitChar d ≠ '\\' ∧
      Nat.digitChar d ≠ '\n' := by decide
  obtain ⟨d, hd, rfl⟩ := Text.exists_of_mem_hexText h
  exact hdigits d hd

/-- What one character is written as. -/
inductive Written (c : Char) : List Char → Prop where
  | itself (hc : PassedOver c) (hreturn : c ≠ '\r') : Written c [c]
  | letter {e : Char} (he : e ≠ '\n') (hreturn : e ≠ '\r') (hu : e ≠ 'u') (hU : e ≠ 'U')
    (hread : escaped? e = some c) : Written c ['\\', e]
  | number {e : Char} {width : Nat} (he : e = 'u' ∧ width = 4 ∨ e = 'U' ∧ width = 8)
    (hc : c.toNat < 16 ^ width) : Written c ('\\' :: e :: (Text.hexText width c.toNat).toList)

/-- A letter that announces a number is one of two, so it differs from whatever both of them
differ from. -/
theorem ne_of_announces {e d : Char} {width : Nat} (he : e = 'u' ∧ width = 4 ∨ e = 'U' ∧ width = 8)
    (hu : 'u' ≠ d) (hU : 'U' ≠ d) : e ≠ d := by
  rcases he with ⟨rfl, -⟩ | ⟨rfl, -⟩
  · exact hu
  · exact hU

/-- **Every character is written in one of the three ways.** The cases are those of the writer:
five characters have a letter of their own, most stand for themselves, and the rest go by number,
in four digits if it fits and otherwise in eight. -/
theorem written_escapeChar (c : Char) : Written c (escapeChar c) := by
  unfold escapeChar
  split
  · next h =>
    subst h
    exact .letter (by decide) (by decide) (by decide) (by decide) rfl
  next hquote =>
  split
  · next h =>
    subst h
    exact .letter (by decide) (by decide) (by decide) (by decide) rfl
  next hbackslash =>
  split
  · next h =>
    subst h
    exact .letter (by decide) (by decide) (by decide) (by decide) rfl
  next hbreak =>
  split
  · next h =>
    subst h
    exact .letter (by decide) (by decide) (by decide) (by decide) rfl
  next hreturn =>
  split
  · next h =>
    subst h
    exact .letter (by decide) (by decide) (by decide) (by decide) rfl
  split
  · exact .itself ⟨hquote, hbackslash, hbreak⟩ hreturn
  split
  -- the number has four digits or fewer, or else is a number of a character and has eight
  · next hshort => exact .number (.inl ⟨rfl, rfl⟩) hshort
  · have hvalid : c.toNat < 0xD800 ∨ 0xDFFF < c.toNat ∧ c.toNat < 0x110000 := c.valid
    exact .number (.inr ⟨rfl, rfl⟩) (by omega)

/-- **The writing of one character never closes the text**: it is a piece of it, whichever of the
three ways it is. -/
theorem upTo_written {c : Char} {written : List Char} (h : Written c written) (rest : List Char) :
    upTo .double ['\x22'] false (written ++ rest) =
      further written (upTo .double ['\x22'] false rest) := by
  cases h with
  | itself hc _ => exact upTo_passedOver hc rest
  | letter he _ _ _ _ => exact upTo_escape he rest
  | number he _ =>
    -- the letter in front of a number is taken along as one that is escaped
    have hbreak := ne_of_announces he (d := '\n') (by decide) (by decide)
    rw [List.cons_append, List.cons_append, upTo_escape hbreak,
      upTo_append (fun c hc => passedOver_of_mem_hexText hc), further_further]
    rfl

/-- The search ends at the quote behind the writing, not before. -/
theorem upTo_flatMap (cs rest : List Char) :
    upTo .double ['\x22'] false (cs.flatMap escapeChar ++ '\x22' :: rest) =
      some (cs.flatMap escapeChar, rest) := by
  induction cs with
  | nil => exact upTo_quote rest
  | cons c cs ih =>
    rw [List.flatMap_cons, List.append_assoc, upTo_written (written_escapeChar c), ih]
    rfl

/-! ## Taking the escapes back -/

/-- A character that is no backslash means itself. -/
theorem unescape_cons {c : Char} (h : c ≠ '\\') (rest : List Char) :
    unescape (c :: rest) = (unescape rest).map (c :: ·) :=
  unescape.eq_6 c rest (fun _ _ _ _ _ hc _ => h hc) (fun _ _ _ _ _ _ _ _ _ hc _ => h hc)
    (fun _ _ hc _ => h hc) fun hc _ => h hc

/-- A backslash with a letter means the character that the letter stands for. The two letters that
announce a number are not among them. -/
theorem unescape_letter {c e : Char} (hu : e ≠ 'u') (hU : e ≠ 'U') (hread : escaped? e = some c)
    (rest : List Char) : unescape ('\\' :: e :: rest) = (unescape rest).map (c :: ·) := by
  rw [unescape.eq_4 e rest (fun _ _ _ _ _ he _ => hu he) (fun _ _ _ _ _ _ _ _ _ he _ => hU he),
    hread]
  rfl

/-- The number of a character is read back and is the number of a character, so it gives that
character again. -/
theorem charOfDigits_hexText (width : Nat) (c : Char) :
    charOfDigits? (Text.hexText width c.toNat).toList = some c := by
  have hvalid : c.toNat.isValidChar := c.valid
  rw [charOfDigits?, Text.numeral_hexText, Option.bind_some, charOfCode?, dif_pos hvalid]
  rfl

/-- Behind the small letter there is a number of four digits, and what stands for it is that one
character. -/
theorem unescape_short {c : Char} {digits : List Char} (hlength : digits.length = 4)
    (hread : charOfDigits? digits = some c) (rest : List Char) :
    unescape ('\\' :: 'u' :: digits ++ rest) = (unescape rest).map (c :: ·) := by
  match digits, hlength with
  | [_, _, _, _], _ =>
    refine (unescape.eq_2 _ _ _ _ rest).trans ?_
    rw [hread]
    rfl

/-- Behind the capital letter there is a number of eight digits. -/
theorem unescape_long {c : Char} {digits : List Char} (hlength : digits.length = 8)
    (hread : charOfDigits? digits = some c) (rest : List Char) :
    unescape ('\\' :: 'U' :: digits ++ rest) = (unescape rest).map (c :: ·) := by
  match digits, hlength with
  | [_, _, _, _, _, _, _, _], _ =>
    refine (unescape.eq_3 _ _ _ _ _ _ _ _ rest).trans ?_
    rw [hread]
    rfl

/-- **One character is read back from its writing**, and the text goes on behind it. A number has
as many digits as the letter in front of it announces. -/
theorem unescape_written {c : Char} {written : List Char} (h : Written c written)
    (rest : List Char) : unescape (written ++ rest) = (unescape rest).map (c :: ·) := by
  cases h with
  | itself hc _ => exact unescape_cons hc.2.1 rest
  | letter _ _ hu hU hread => exact unescape_letter hu hU hread rest
  | number he hc =>
    rcases he with ⟨rfl, rfl⟩ | ⟨rfl, rfl⟩
    · exact unescape_short (Text.length_hexText (by omega) hc) (charOfDigits_hexText 4 c) rest
    · exact unescape_long (Text.length_hexText (by omega) hc) (charOfDigits_hexText 8 c) rest

/-- Character by character, a text is read back from its writing. -/
theorem unescape_flatMap (cs : List Char) : unescape (cs.flatMap escapeChar) = some cs := by
  induction cs with
  | nil => rfl
  | cons c cs ih =>
    rw [List.flatMap_cons, unescape_written (written_escapeChar c), ih, Option.map_some]

/-! ## Texts in quotes -/

/-- The writing of a character begins with something else than a quote, so it cannot be mistaken
for the end of the text or the opening of a long one. -/
theorem written_ne_quote {c : Char} {written : List Char} (h : Written c written) :
    ∃ d rest, written = d :: rest ∧ d ≠ '\x22' := by
  cases h with
  | itself hc _ => exact ⟨c, [], rfl, hc.1⟩
  | letter _ _ _ _ _ => exact ⟨'\\', _, rfl, by decide⟩
  | number _ _ => exact ⟨'\\', _, rfl, by decide⟩

/-- The writing of a text is its characters' between two quotes. -/
theorem toList_quoted (s : String) :
    (quoted s).toList = '\x22' :: (s.toList.flatMap escapeChar ++ ['\x22']) := by
  rw [quoted, String.toList_ofList, List.append_assoc, List.singleton_append]

/-- What was written in quotes does not open with three of them. -/
theorem after_quotes (s : String) {rest : List Char} (hrest : rest.head? ≠ some '\x22') :
    Text.after? (List.replicate 3 '\x22') ((quoted s).toList ++ rest) = none := by
  rw [toList_quoted]
  -- the second quote there could be is the closing one, if the text is empty
  cases s.toList with
  | nil =>
    cases rest with
    | nil => rfl
    | cons c rest =>
      have hc : '\x22' ≠ c := fun h => hrest (congrArg some h.symm)
      change (if '\x22' = c then Text.after? [] rest else none) = none
      rw [if_neg hc]
  | cons c cs =>
    obtain ⟨d, more, hwritten, hd⟩ := written_ne_quote (written_escapeChar c)
    rw [List.flatMap_cons, hwritten]
    change (if '\x22' = d then Text.after? ['\x22'] _ else none) = none
    rw [if_neg hd.symm]

/-- **What was written in quotes is read back**, unless a further quote stands behind it. -/
theorem readText_quoted (s : String) {rest : List Char} (hrest : rest.head? ≠ some '\x22') :
    readText .double ((quoted s).toList ++ rest) = some (s, rest) := by
  -- the closing quote is where the writing ends
  have hupTo : upTo .double ['\x22'] false (((quoted s).toList ++ rest).drop 1) =
      some (s.toList.flatMap escapeChar, rest) := by
    rw [toList_quoted, List.cons_append, List.drop_succ_cons, List.drop_zero, List.append_assoc]
    exact upTo_flatMap s.toList rest
  have hmeaning : meaning .double (s.toList.flatMap escapeChar) = some s := by
    rw [meaning, unescape_flatMap, Option.map_some, String.ofList_toList]
  -- there is no long text here, so the short one is read
  unfold readText
  dsimp only [Quote.char]
  rw [after_quotes s hrest]
  dsimp only
  rw [hupTo, Option.bind_eq_bind, Option.bind_some]
  dsimp only
  rw [hmeaning]
  rfl

/-- A carriage return is written as a letter, and no writing of another character contains one. -/
theorem ne_carriageReturn_of_mem_written {c d : Char} {written : List Char} (h : Written c written)
    (hd : d ∈ written) : d ≠ '\r' := by
  have hdigits : ∀ d < 16, Nat.digitChar d ≠ '\r' := by decide
  cases h with
  | itself _ hreturn =>
    rw [List.mem_singleton.1 hd]
    exact hreturn
  | letter _ hreturn _ _ _ =>
    rcases List.mem_cons.1 hd with rfl | hd
    · decide
    · rw [List.mem_singleton.1 hd]
      exact hreturn
  | number he _ =>
    rcases List.mem_cons.1 hd with rfl | hd
    · decide
    rcases List.mem_cons.1 hd with rfl | hd
    · exact ne_of_announces he (by decide) (by decide)
    · obtain ⟨k, hk, rfl⟩ := Text.exists_of_mem_hexText hd
      exact hdigits k hk

/-- A file with texts in quotes reads the same whatever ends its lines. -/
theorem carriageReturn_not_mem_quoted (s : String) : '\r' ∉ (quoted s).toList := by
  rw [toList_quoted]
  intro h
  rcases List.mem_cons.1 h with h | h
  · exact absurd h (by decide)
  rcases List.mem_append.1 h with h | h
  · obtain ⟨c, -, h⟩ := List.mem_flatMap.1 h
    exact ne_carriageReturn_of_mem_written (written_escapeChar c) h rfl
  · exact absurd (List.mem_singleton.1 h) (by decide)

end Toml

end ApiOutline
