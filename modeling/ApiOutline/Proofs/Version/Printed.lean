/-
Printed versions are read back.

A version that is printed is one, two or three numbers with points between them. Reading takes as
much as it can: it goes on in a run of digits as long as there are digits, and with another part if
a point and a digit come next. So what a printed version gives back depends on what stands behind
it only in this, whether that goes on with the version (`Printed.Ends`). If it does not, the numbers
are found, with zeros for those that are not printed, whatever else follows
(`Printed.parts?_append`, `Printed.read?_eq_ok`).

A text is read as having no version only if there is no digit behind its blanks and its `v`
(`read?_eq_none_iff`). One with too many digits is not read at all.
-/
import ApiOutline.Proofs.Name.Identifier
import ApiOutline.Proofs.Version.Front

set_option autoImplicit false

namespace ApiOutline

namespace Text

/-- A digit of ASCII is a decimal digit, and its value is its place behind the zero. -/
theorem decimalValue?_of_isDigit {c : Char} (h : c.isDigit = true) :
    isDecimal c = true ∧ decimalValue? c = some (c.toNat - '0'.toNat) := by
  rw [Char.isDigit, Bool.and_eq_true, decide_eq_true_eq, decide_eq_true_eq] at h
  have hlow : 0x30 ≤ c.toNat := h.1
  have hhigh : c.toNat ≤ 0x39 := h.2
  constructor
  · exact Ranges.has_of_first hlow hhigh
  · -- the digits of ASCII are the first of all rows
    have hrow : (decimalRanges.find? fun r => r.1 ≤ c.toNat && c.toNat ≤ r.2) =
        some (0x30, 0x39) := by
      rw [decimalRanges, List.find?_cons_of_pos]
      simp [hlow, hhigh]
    have hsmall : c.toNat - 0x30 < 10 := by omega
    rw [decimalValue?, hrow, Option.map_some, Nat.mod_eq_of_lt hsmall]
    rfl

/-- The digits of a number write the number. Both readings of digits go through them from the left
and multiply by ten at each step, so they agree after any number of digits. -/
theorem decimalNumber_toDigits (n : Nat) : decimalNumber (Nat.toDigits 10 n) = n := by
  have hvalues : ∀ (ds : List Char) (m : Nat), (∀ c ∈ ds, c.isDigit = true) →
      ds.foldl (fun n c => n * 10 + (decimalValue? c).getD 0) m = Nat.ofDigitChars 10 ds m := by
    intro ds m hds
    induction ds generalizing m with
    | nil => rfl
    | cons c ds ih =>
      have hc : decimalValue? c = some (c.toNat - '0'.toNat) :=
        (decimalValue?_of_isDigit (hds c List.mem_cons_self)).2
      rw [List.foldl_cons, hc, Option.getD_some, Nat.mul_comm, Nat.ofDigitChars_cons]
      exact ih _ fun d hd => hds d (List.mem_cons_of_mem c hd)
  have hdigits : ∀ c ∈ Nat.toDigits 10 n, c.isDigit = true :=
    fun c hc => Nat.isDigit_of_mem_toDigits (by decide) (by decide) hc
  rw [decimalNumber, hvalues _ 0 hdigits, Nat.ofDigitChars_ten_toDigits]

end Text

namespace Version

open Text (isBlank isDecimal)

/-! ## Numbers in digits -/

/-- A number is written in decimal digits. -/
theorem isDecimal_of_mem_toDigits {n : Nat} {c : Char} (h : c ∈ Nat.toDigits 10 n) :
    isDecimal c = true :=
  (Text.decimalValue?_of_isDigit (Nat.isDigit_of_mem_toDigits (by decide) (by decide) h)).1

/-- A run of digits does not go on. -/
def NoDigit (rest : List Char) : Prop :=
  ∀ c ∈ rest.head?, isDecimal c = false

/-- There is no further part: no point with a digit behind it. -/
def NoPart (rest : List Char) : Prop :=
  ∀ behind, rest = '.' :: behind → NoDigit behind

/-- A run of digits ends at a point. -/
theorem noDigit_point (rest : List Char) : NoDigit ('.' :: rest) := by
  intro c hc
  obtain rfl : '.' = c := Option.some.inj hc
  decide +kernel

/-- No digits are found just where the text does not begin with one. -/
theorem digits?_eq_none_iff {cs : List Char} : digits? cs = none ↔ NoDigit cs := by
  cases cs with
  | nil => simp [digits?, NoDigit]
  | cons d cs => by_cases hd : isDecimal d = true <;> simp [digits?, NoDigit, hd]

/-- A number in digits is read as these digits. -/
theorem digits?_toDigits (n : Nat) {rest : List Char} (h : NoDigit rest) :
    digits? (Nat.toDigits 10 n ++ rest) = some (Nat.toDigits 10 n, rest) :=
  digits?_eq_some_iff.2 ⟨rfl, Nat.toDigits_ne_nil, fun _ hc => isDecimal_of_mem_toDigits hc, h⟩

/-- So is one behind a point. -/
theorem part_toDigits (n : Nat) {rest : List Char} (h : NoDigit rest) :
    part ('.' :: (Nat.toDigits 10 n ++ rest)) = (some (Nat.toDigits 10 n), rest) := by
  rw [part, digits?_toDigits n h]

/-- Where no part follows, none is found and nothing is passed over. -/
theorem part_of_noPart {rest : List Char} (h : NoPart rest) : part rest = (none, rest) := by
  unfold part
  split
  next behind =>
    have hnone : digits? behind = none := digits?_eq_none_iff.2 (h behind rfl)
    rw [hnone]
  next => rfl

/-- These digits are a number again, if they are not too many. -/
theorem number_toDigits {n : Nat} (h : (Decimal.digitText n).length ≤ Fault.digitLimit) :
    number (Nat.toDigits 10 n) = .ok n := by
  rw [Decimal.digitText, String.length_ofList] at h
  rw [number, if_pos h, Text.decimalNumber_toDigits]

/-! ## Printed versions -/

/-- A version as it is printed: one, two or three numbers. -/
inductive Printed where
  | major (a : Nat)
  | minor (a b : Nat)
  | patch (a b c : Nat)
  deriving DecidableEq, Repr

namespace Printed

def numbers : Printed → List Nat
  | .major a => [a]
  | .minor a b => [a, b]
  | .patch a b c => [a, b, c]

/-- The numbers with points between them. -/
def text (x : Printed) : String :=
  ".".intercalate (x.numbers.map Decimal.digitText)

/-- The version that is meant: parts that are not printed are zero. -/
def version : Printed → Version
  | .major a => ⟨a, 0, 0⟩
  | .minor a b => ⟨a, b, 0⟩
  | .patch a b c => ⟨a, b, c⟩

/-- No number has too many digits. -/
def Short (x : Printed) : Prop :=
  ∀ n ∈ x.numbers, (Decimal.digitText n).length ≤ Fault.digitLimit

/-- What follows does not go on with the version. Behind three numbers it may go on with a point and
more digits, for there is no fourth part. -/
def Ends (rest : List Char) : Printed → Prop
  | .patch _ _ _ => NoDigit rest
  | _ => NoDigit rest ∧ NoPart rest

/-- Where its parts are, with `rest` behind it. -/
def parts (rest : List Char) : Printed → Parts
  | .major a => ⟨Nat.toDigits 10 a, none, none, rest⟩
  | .minor a b => ⟨Nat.toDigits 10 a, some (Nat.toDigits 10 b), none, rest⟩
  | .patch a b c =>
    ⟨Nat.toDigits 10 a, some (Nat.toDigits 10 b), some (Nat.toDigits 10 c), rest⟩

/-- A printed version, character by character: the digits of its numbers with points between them.
-/
theorem toList_text (x : Printed) : x.text.toList =
    match x with
    | .major a => Nat.toDigits 10 a
    | .minor a b => Nat.toDigits 10 a ++ '.' :: Nat.toDigits 10 b
    | .patch a b c =>
      Nat.toDigits 10 a ++ '.' :: (Nat.toDigits 10 b ++ '.' :: Nat.toDigits 10 c) := by
  rw [text, String.toList_intercalate]
  -- one number, two or three, and so many points less one
  cases x <;> simp [numbers, Decimal.digitText]

/-- **Its parts are found**, if what follows does not go on with it. Inside the version a run of
digits ends at the next point, and at its end it is the condition on the rest that ends it. -/
theorem parts?_append {x : Printed} {rest : List Char} (h : x.Ends rest) :
    parts? (x.text.toList ++ rest) = some (x.parts rest) := by
  rw [toList_text]
  cases x with
  | major a =>
    have hmajor := digits?_toDigits a h.1
    rw [parts?, hmajor, Option.map_some]
    simp only [part_of_noPart h.2, parts]
  | minor a b =>
    have hmajor := digits?_toDigits a (noDigit_point (Nat.toDigits 10 b ++ rest))
    rw [List.append_assoc, List.cons_append, parts?, hmajor, Option.map_some]
    simp only [part_toDigits b h.1, part_of_noPart h.2, parts]
  | patch a b c =>
    have hmajor :=
      digits?_toDigits a (noDigit_point (Nat.toDigits 10 b ++ '.' :: (Nat.toDigits 10 c ++ rest)))
    have hminor := part_toDigits b (noDigit_point (Nat.toDigits 10 c ++ rest))
    simp only [List.append_assoc, List.cons_append]
    rw [parts?, hmajor, Option.map_some]
    simp only [hminor, part_toDigits c h, parts]

/-- And they are its numbers. This is where the length of a number matters, as a run with too many
digits is found but not read. -/
theorem version_parts {x : Printed} (h : x.Short) (rest : List Char) :
    (x.parts rest).version = .ok x.version := by
  have hnumber : ∀ n ∈ x.numbers, number (Nat.toDigits 10 n) = .ok n :=
    fun n hn => number_toDigits (h n hn)
  -- parts that are missing are read as zero, which is what the version has for them
  cases x with
  | major a =>
    simp only [parts, Parts.version, hnumber a (by simp [numbers])]
    rfl
  | minor a b =>
    simp only [parts, Parts.version, partNumber, hnumber a (by simp [numbers]),
      hnumber b (by simp [numbers])]
    rfl
  | patch a b c =>
    simp only [parts, Parts.version, partNumber, hnumber a (by simp [numbers]),
      hnumber b (by simp [numbers]), hnumber c (by simp [numbers])]
    rfl

end Printed

/-! ## What stands before -/

/-- How a text begins that has a version: blanks, perhaps a `v`, and a decimal digit. -/
def Begins (cs : List Char) : Prop :=
  ∃ blanks mark d rest, cs = blanks ++ (mark ++ d :: rest) ∧ (∀ c ∈ blanks, isBlank c = true) ∧
    (mark = [] ∨ mark = ['v']) ∧ isDecimal d = true

/-- A text begins with a digit or with something that ends a run of digits. -/
theorem not_noDigit_iff {cs : List Char} :
    ¬ NoDigit cs ↔ ∃ d rest, cs = d :: rest ∧ isDecimal d = true := by
  cases cs with
  | nil => simp [NoDigit]
  | cons d rest => simp [NoDigit]

/-- What stands before a digit is dropped: the digit and everything behind it are left. It is a
digit, so it cannot be taken for a blank or for the `v`. -/
theorem body_append {blanks mark tail : List Char} (hblanks : ∀ c ∈ blanks, isBlank c = true)
    (hmark : mark = [] ∨ mark = ['v']) (htail : ¬ NoDigit tail) :
    body (blanks ++ (mark ++ tail)) = tail := by
  obtain ⟨⟨ds, rest⟩, hread⟩ := Option.ne_none_iff_exists'.1 (mt digits?_eq_none_iff.1 htail)
  obtain ⟨rfl, hne, hdigits, hrest⟩ := digits?_eq_some_iff.1 hread
  exact Front.body_eq ⟨blanks, mark, ds, rest, rfl, hblanks, hmark, hne, hdigits, hrest⟩

/-- A text has a version exactly when a digit is left of it. -/
theorem begins_iff {cs : List Char} : Begins cs ↔ ¬ NoDigit (body cs) := by
  constructor
  · rintro ⟨blanks, mark, d, rest, rfl, hblanks, hmark, hd⟩
    have htail : ¬ NoDigit (d :: rest) := not_noDigit_iff.2 ⟨d, rest, rfl, hd⟩
    rw [body_append hblanks hmark htail]
    exact htail
  · intro h
    obtain ⟨d, rest, hbody, hd⟩ := not_noDigit_iff.1 h
    obtain ⟨blanks, mark, hcs, hblanks, hmark⟩ := exists_before_body cs
    rw [hbody] at hcs
    exact ⟨blanks, mark, d, rest, hcs, hblanks, hmark, hd⟩

/-! ## What is read -/

/-- **A printed version is read back.** Blanks and a mark in front of it are dropped first, and
what stands behind it is left alone. -/
theorem Printed.read?_eq_ok {blanks mark rest : String} {x : Printed}
    (hblanks : ∀ c ∈ blanks.toList, isBlank c = true) (hmark : mark = "" ∨ mark = "v")
    (hshort : x.Short) (hends : x.Ends rest.toList) :
    read? (blanks ++ mark ++ x.text ++ rest) = .ok (some x.version) := by
  have hparts := x.parts?_append hends
  -- it has parts, so it begins with a digit
  have htail : ¬ NoDigit (x.text.toList ++ rest.toList) := by
    intro hnone
    rw [parts?, digits?_eq_none_iff.2 hnone] at hparts
    exact nomatch hparts
  have hlist : mark.toList = [] ∨ mark.toList = ['v'] := by
    rcases hmark with rfl | rfl
    · exact .inl rfl
    · exact .inr rfl
  rw [read?, String.toList_append, String.toList_append, String.toList_append, List.append_assoc,
    List.append_assoc, body_append hblanks hlist htail, hparts]
  simp only [version_parts hshort]
  rfl

/-- Only a text without a digit at its front is read as having no version. -/
theorem read?_eq_none_iff {text : String} : read? text = .ok none ↔ ¬ Begins text.toList := by
  rw [begins_iff, not_not, ← digits?_eq_none_iff]
  unfold read? parts?
  cases hdigits : digits? (body text.toList) with
  | none => simp
  | some found =>
    -- whether the numbers can be read or not, the answer is not that there are none
    have hsome : ∀ read : Except Fault Version, read.map some ≠ .ok none := by
      intro read
      cases read with
      | error f => exact fun h => nomatch h
      | ok v => exact fun h => nomatch h
    simp [hsome]

/-- **Reading a printed version gives it back, and nothing is read as having no version but what
has none.** Blanks and a `v` may stand before it, and behind it anything that does not go on with
it. -/
theorem ofValue?_printed :
    (∀ (blanks mark rest : String) (x : Printed), (∀ c ∈ blanks.toList, isBlank c = true) →
      (mark = "" ∨ mark = "v") → x.Short → x.Ends rest.toList →
        ofValue? (.str (blanks ++ mark ++ x.text ++ rest)) = .ok (some x.version)) ∧
      ∀ v : Value, ofValue? v = .ok none ↔ ∀ text, v = .str text → ¬ Begins text.toList := by
  refine ⟨fun blanks mark rest x => Printed.read?_eq_ok, fun v => ?_⟩
  unfold ofValue?
  split
  next text =>
    rw [read?_eq_none_iff]
    constructor
    · rintro h other heq
      cases heq
      exact h
    · exact fun h => h text rfl
  next hnot => exact ⟨fun _ text heq => absurd heq (hnot text), fun _ => rfl⟩

/-- Other points and digits behind the third number are not part of the version. -/
theorem ofValue?_printed_nightly :
    ofValue? (.str "\u2003v2.0.7.9-beta") = .ok (some ⟨2, 0, 7⟩) ∧
      ofValue? (.str "beta 2") = .ok none := by
  constructor
  · have htext : "\u2003v2.0.7.9-beta" =
        "\u2003" ++ "v" ++ (Printed.patch 2 0 7).text ++ ".9-beta" := by decide +kernel
    have hblanks : ∀ c ∈ "\u2003".toList, isBlank c = true := by
      change ∀ c ∈ ['\u2003'], isBlank c = true
      rw [List.forall_mem_singleton]
      decide +kernel
    have hshort : (Printed.patch 2 0 7).Short := by
      unfold Printed.Short
      decide +kernel
    rw [htext]
    exact ofValue?_printed.1 _ _ _ _ hblanks (.inr rfl) hshort (noDigit_point _)
  · apply (ofValue?_printed.2 _).2
    rintro text heq hbegins
    cases heq
    refine begins_iff.1 hbegins fun c hc => ?_
    obtain rfl : 'b' = c := Option.some.inj hc
    decide +kernel

end Version

end ApiOutline
