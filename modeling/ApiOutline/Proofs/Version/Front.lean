/-
The front of a version's text.

A version is read from the front of a text: blanks and an optional `v` are passed over, and then
there is a run of decimal digits or no version at all (`Front`). The text has at most one such run,
since a digit is neither a blank nor a `v`, and reading finds it (`digits?_body_eq_some_iff`). Where
no run of digits in the text is too long to be a number (`ShortRuns`), the text is read, with the
number at the front for the major one (`read?_eq_ok`).
-/
import ApiOutline.Proofs.Text.Ranges
import ApiOutline.Version

set_option autoImplicit false

namespace ApiOutline.Version

open Text (isBlank isDecimal decimalNumber)

/-! ## Runs of digits -/

/-- What is taken while a test holds is all of a run that passes it, if what follows does not
begin with something that passes too. -/
theorem takeWhile_run {α : Type} {p : α → Bool} {run rest : List α} (hrun : ∀ a ∈ run, p a = true)
    (hrest : ∀ a ∈ rest.head?, p a = false) : (run ++ rest).takeWhile p = run := by
  rw [List.takeWhile_append_of_pos hrun]
  cases rest with
  | nil => exact List.append_nil run
  | cons a rest => simp [hrest a rfl]

/-- And what is left when it is taken is what follows the run. -/
theorem dropWhile_run {α : Type} {p : α → Bool} {run rest : List α} (hrun : ∀ a ∈ run, p a = true)
    (hrest : ∀ a ∈ rest.head?, p a = false) : (run ++ rest).dropWhile p = rest := by
  rw [List.dropWhile_append_of_pos hrun]
  cases rest with
  | nil => rfl
  | cons a rest => simp [hrest a rfl]

/-- The run of digits at the front is all of it: what follows begins with no digit. So to know
what is read it is enough to take the text apart in this way, and there is only one way to do it.
-/
theorem digits?_eq_some_iff {cs ds rest : List Char} :
    digits? cs = some (ds, rest) ↔
      cs = ds ++ rest ∧ ds ≠ [] ∧ (∀ c ∈ ds, isDecimal c = true) ∧
        ∀ c ∈ rest.head?, isDecimal c = false := by
  constructor
  · intro h
    have hboth : ds = cs.takeWhile isDecimal ∧ rest = cs.dropWhile isDecimal ∧ ds ≠ [] := by
      -- the definition hides the run behind an option, so first that run is named
      unfold digits? at h
      cases htake : cs.takeWhile isDecimal with
      | nil => simp [htake] at h
      | cons d more =>
        simp only [htake, Option.some.injEq, Prod.mk.injEq] at h
        exact ⟨h.1.symm, h.2.symm, by simp [← h.1]⟩
    obtain ⟨rfl, rfl, hne⟩ := hboth
    refine ⟨List.takeWhile_append_dropWhile.symm, hne, fun c hc => ?_, fun c hc => ?_⟩
    · exact List.all_eq_true.1 List.all_takeWhile c hc
    · have hhead := List.head?_dropWhile_not isDecimal cs
      rw [Option.mem_def.1 hc] at hhead
      simpa using hhead
  · rintro ⟨rfl, hne, hds, hrest⟩
    rw [digits?, takeWhile_run hds hrest, dropWhile_run hds hrest]
    cases ds with
    | nil => exact absurd rfl hne
    | cons d more => rfl

/-- No run of digits in a text is too long to be a number. -/
def ShortRuns (cs : List Char) : Prop :=
  ∀ ds, ds <:+: cs → (∀ c ∈ ds, isDecimal c = true) → ds.length ≤ Fault.digitLimit

/-- A piece of a text has no longer runs than the text. -/
theorem ShortRuns.infix {cs part : List Char} (h : ShortRuns cs) (hpart : part <:+: cs) :
    ShortRuns part :=
  fun ds hds => h ds (hds.trans hpart)

/-- A text that is not long has no long runs. -/
theorem shortRuns_of_length {cs : List Char} (h : cs.length ≤ Fault.digitLimit) : ShortRuns cs :=
  fun _ hds _ => Nat.le_trans hds.length_le h

/-- A short run is a number, and what follows it has short runs again. -/
theorem ShortRuns.digits {cs ds rest : List Char} (h : ShortRuns cs)
    (hds : digits? cs = some (ds, rest)) :
    number ds = .ok (decimalNumber ds) ∧ ShortRuns rest := by
  obtain ⟨rfl, -, hdigits, -⟩ := digits?_eq_some_iff.1 hds
  constructor
  · exact if_pos (h ds (List.prefix_append ds rest).isInfix hdigits)
  · exact h.infix (List.suffix_append ds rest).isInfix

/-- So is a part that may be missing. -/
theorem ShortRuns.part {cs : List Char} (h : ShortRuns cs) :
    (∃ n, partNumber (part cs).1 = .ok n) ∧ ShortRuns (part cs).2 := by
  unfold Version.part
  split
  next rest =>
    have hrest : ShortRuns rest := h.infix (List.suffix_cons '.' rest).isInfix
    -- a point without a digit behind it is no part, and nothing is read
    cases hds : digits? rest with
    | none => exact ⟨⟨0, rfl⟩, h⟩
    | some read => exact ⟨⟨_, (hrest.digits hds).1⟩, (hrest.digits hds).2⟩
  next => exact ⟨⟨0, rfl⟩, h⟩

/-! ## The number at the front -/

/-- How a text begins that begins with a version: blanks, perhaps a `v`, and a whole run of
decimal digits. -/
structure Front (cs : List Char) where
  blanks : List Char
  mark : List Char
  digits : List Char
  rest : List Char
  text_eq : cs = blanks ++ (mark ++ (digits ++ rest))
  isBlank_of_mem : ∀ c ∈ blanks, isBlank c = true
  mark_eq : mark = [] ∨ mark = ['v']
  digits_ne_nil : digits ≠ []
  isDecimal_of_mem : ∀ c ∈ digits, isDecimal c = true
  isDecimal_rest : ∀ c ∈ rest.head?, isDecimal c = false

/-- A text begins with a version of that major number. -/
def Opens (cs : List Char) (n : Nat) : Prop :=
  ∃ front : Front cs, decimalNumber front.digits = n

/-- No digit is a blank, in any of the scripts that have digits. -/
theorem decimal_apart : Text.decimalRanges.Apart Text.blankRanges := by decide +kernel

/-- So a digit ends the blanks before it. -/
theorem isBlank_of_isDecimal {c : Char} (h : isDecimal c = true) : isBlank c = false :=
  decimal_apart.has_eq_false h

/-- A digit is no `v`. -/
theorem ne_mark_of_isDecimal {c : Char} (h : isDecimal c = true) : c ≠ 'v' := by
  rintro rfl
  exact absurd h (by decide +kernel)

/-- The blanks are all the blanks: neither a `v` nor a digit is one. -/
theorem Front.isBlank_head {cs : List Char} (front : Front cs) :
    ∀ c ∈ (front.mark ++ (front.digits ++ front.rest)).head?, isBlank c = false := by
  obtain ⟨d, more, hcons⟩ := List.exists_cons_of_ne_nil front.digits_ne_nil
  intro c hc
  rcases front.mark_eq with hmark | hmark
  · rw [hmark, hcons] at hc
    obtain rfl : d = c := Option.some.inj hc
    exact isBlank_of_isDecimal (front.isDecimal_of_mem d (hcons ▸ List.mem_cons_self))
  · rw [hmark] at hc
    obtain rfl : 'v' = c := Option.some.inj hc
    decide +kernel

/-- What may stand before the digits is dropped, and nothing else is. -/
theorem Front.body_eq {cs : List Char} (front : Front cs) :
    body cs = front.digits ++ front.rest := by
  obtain ⟨d, more, hcons⟩ := List.exists_cons_of_ne_nil front.digits_ne_nil
  have hd : isDecimal d = true := front.isDecimal_of_mem d (hcons ▸ List.mem_cons_self)
  have hdrop : cs.dropWhile isBlank = front.mark ++ (front.digits ++ front.rest) := by
    rw [← dropWhile_run front.isBlank_of_mem front.isBlank_head, ← front.text_eq]
  unfold body
  rw [hdrop]
  -- without a mark nothing more is dropped: the digit in front is not taken for one
  rcases front.mark_eq with hmark | hmark
  · rw [hmark, hcons, List.nil_append]
    split
    next tail heq => exact absurd (List.cons.inj heq).1 (ne_mark_of_isDecimal hd)
    next => rfl
  · rw [hmark]
    rfl

/-- What is dropped is blanks and perhaps a `v`. -/
theorem exists_before_body (cs : List Char) :
    ∃ blanks mark, cs = blanks ++ (mark ++ body cs) ∧ (∀ c ∈ blanks, isBlank c = true) ∧
      (mark = [] ∨ mark = ['v']) := by
  have hcs : cs = cs.takeWhile isBlank ++ cs.dropWhile isBlank :=
    List.takeWhile_append_dropWhile.symm
  have hblank : ∀ c ∈ cs.takeWhile isBlank, isBlank c = true :=
    fun c hc => List.all_eq_true.1 List.all_takeWhile c hc
  unfold body
  split
  next rest heq => exact ⟨_, ['v'], hcs.trans (by rw [heq]; rfl), hblank, .inr rfl⟩
  next => exact ⟨_, [], hcs, hblank, .inl rfl⟩

/-- **Reading finds the digits at the front, and only those.** A front is the text taken apart:
blanks, perhaps a mark, digits, and a rest that does not go on with digits. -/
theorem digits?_body_eq_some_iff {cs ds rest : List Char} :
    digits? (body cs) = some (ds, rest) ↔
      ∃ front : Front cs, front.digits = ds ∧ front.rest = rest := by
  constructor
  · intro h
    obtain ⟨hbody, hne, hdigits, hrest⟩ := digits?_eq_some_iff.1 h
    obtain ⟨blanks, mark, hcs, hblank, hmark⟩ := exists_before_body cs
    rw [hbody] at hcs
    exact ⟨⟨blanks, mark, ds, rest, hcs, hblank, hmark, hne, hdigits, hrest⟩, rfl, rfl⟩
  · rintro ⟨front, rfl, rfl⟩
    exact digits?_eq_some_iff.2
      ⟨front.body_eq, front.digits_ne_nil, front.isDecimal_of_mem, front.isDecimal_rest⟩

/-- A text begins with one version at most. -/
theorem Opens.unique {cs : List Char} {m n : Nat} (hm : Opens cs m) (hn : Opens cs n) : m = n := by
  obtain ⟨front, rfl⟩ := hm
  obtain ⟨other, rfl⟩ := hn
  have h := digits?_body_eq_some_iff.2 ⟨front, rfl, rfl⟩
  rw [digits?_body_eq_some_iff.2 ⟨other, rfl, rfl⟩, Option.some.injEq, Prod.mk.injEq] at h
  rw [h.1]

/-! ## What is read -/

/-- What is left of a text when blanks and a `v` are dropped from its front has no longer runs
than the text. -/
theorem ShortRuns.body {cs : List Char} (h : ShortRuns cs) : ShortRuns (body cs) := by
  obtain ⟨blanks, mark, hcs, -, -⟩ := exists_before_body cs
  refine h.infix (List.IsSuffix.isInfix ⟨blanks ++ mark, ?_⟩)
  rw [List.append_assoc]
  exact hcs.symm

/-- With short runs a text that begins with a version is read, with that major number, and one
that begins with none is read as having none. -/
theorem read?_eq_ok {s : String} (h : ShortRuns s.toList) :
    (∃ v, read? s = .ok (some v) ∧ Opens s.toList v.major) ∨
      (read? s = .ok none ∧ ∀ n, ¬ Opens s.toList n) := by
  unfold read? parts?
  cases hds : digits? (body s.toList) with
  | none =>
    refine .inr ⟨rfl, ?_⟩
    rintro n ⟨front, -⟩
    rw [digits?_body_eq_some_iff.2 ⟨front, rfl, rfl⟩] at hds
    exact nomatch hds
  | some read =>
    obtain ⟨ds, behind⟩ := read
    -- three runs of digits at most are read, and short runs remain behind each
    obtain ⟨hmajor, hbehind⟩ := h.body.digits hds
    obtain ⟨⟨minor, hminor⟩, hrest⟩ := hbehind.part
    obtain ⟨⟨patch, hpatch⟩, -⟩ := hrest.part
    obtain ⟨front, hfront, -⟩ := digits?_body_eq_some_iff.1 hds
    refine .inl ⟨⟨decimalNumber ds, minor, patch⟩, ?_, front, by rw [hfront]⟩
    simp only [Option.map_some, Parts.version, hmajor, hminor, hpatch]
    rfl

end ApiOutline.Version
