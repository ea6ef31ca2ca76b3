/-
Cutting texts.

Texts are cut as lists of characters: at a separator, at their ends, behind a given beginning.
The lemmas say what is needed of the cuts later, that nothing but separators is lost and that no
piece contains one.
-/

set_option autoImplicit false

namespace ApiOutline.Text

/-- The pieces between occurrences of a separator. There is always at least one, and pieces may be
empty. -/
def splitAt (sep : Char) : List Char → List (List Char)
  | [] => [[]]
  | c :: rest =>
    match splitAt sep rest with
    | [] => [[c]]
    | piece :: pieces => if c = sep then [] :: piece :: pieces else (c :: piece) :: pieces

/-- There is always a piece, if only an empty one. -/
theorem splitAt_ne_nil (sep : Char) (cs : List Char) : splitAt sep cs ≠ [] := by
  induction cs with
  | nil => simp [splitAt]
  | cons c rest ih =>
    simp only [splitAt]
    split
    · simp
    · split <;> simp

/-- A text without separators is its only piece. -/
theorem splitAt_of_not_mem {sep : Char} {cs : List Char} (h : sep ∉ cs) :
    splitAt sep cs = [cs] := by
  induction cs with
  | nil => rfl
  | cons c rest ih =>
    have hc : c ≠ sep := fun heq => h (heq ▸ List.mem_cons_self)
    rw [splitAt, ih fun hmem => h (List.mem_cons_of_mem _ hmem)]
    exact if_neg hc

/-- A separator is where the pieces of a text are cut, and nothing else is. -/
theorem splitAt_append (sep : Char) (xs ys : List Char) :
    splitAt sep (xs ++ sep :: ys) = splitAt sep xs ++ splitAt sep ys := by
  induction xs with
  | nil =>
    obtain ⟨piece, pieces, hpieces⟩ := List.exists_cons_of_ne_nil (splitAt_ne_nil sep ys)
    rw [List.nil_append, splitAt.eq_2, hpieces]
    dsimp only
    rw [if_pos rfl]
    rfl
  | cons x xs ih =>
    obtain ⟨piece, pieces, hpieces⟩ := List.exists_cons_of_ne_nil (splitAt_ne_nil sep xs)
    rw [List.cons_append, splitAt.eq_2, ih, splitAt.eq_2, hpieces, List.cons_append]
    dsimp only
    by_cases hx : x = sep
    · rw [if_pos hx, if_pos hx]
      rfl
    · rw [if_neg hx, if_neg hx]
      rfl

/-- Without the characters at the end that satisfy `p`. -/
def dropEnd (p : Char → Bool) (cs : List Char) : List Char :=
  (cs.reverse.dropWhile p).reverse

/-- Without the characters at either end that satisfy `p`. -/
def strip (p : Char → Bool) (cs : List Char) : List Char :=
  dropEnd p (cs.dropWhile p)

/-- What follows a given beginning, if the text begins with it. -/
def after? : List Char → List Char → Option (List Char)
  | [], cs => some cs
  | _ :: _, [] => none
  | l :: lead, c :: cs => if l = c then after? lead cs else none

/-- Behind a text comes what was put behind it. -/
theorem after?_append (lead rest : List Char) : after? lead (lead ++ rest) = some rest := by
  induction lead with
  | nil => rfl
  | cons l lead ih => simp [after?, ih]

/-- Nothing is lost between a beginning and what follows it. -/
theorem eq_append_of_after? {lead cs rest : List Char} (h : after? lead cs = some rest) :
    cs = lead ++ rest := by
  induction lead generalizing cs with
  | nil => simpa [after?] using h
  | cons l lead ih =>
    cases cs with
    | nil => simp [after?] at h
    | cons c cs =>
      simp only [after?] at h
      split at h
      · next hc => rw [hc, ih h]; rfl
      · simp at h

/-- Does a text begin with another? -/
def beginsWith (lead cs : List Char) : Bool :=
  (after? lead cs).isSome

/-- The test for beginnings is what the library calls a prefix. -/
theorem beginsWith_iff {lead cs : List Char} : beginsWith lead cs = true ↔ lead <+: cs := by
  rw [beginsWith, Option.isSome_iff_exists]
  constructor
  · rintro ⟨rest, hrest⟩
    exact ⟨rest, (eq_append_of_after? hrest).symm⟩
  · rintro ⟨rest, rfl⟩
    exact ⟨rest, after?_append lead rest⟩

/-- Does a text end with another? -/
def endsWith (tail cs : List Char) : Bool :=
  beginsWith tail.reverse cs.reverse

/-- Does `needle` occur in a text? -/
def occursIn (needle : List Char) : List Char → Bool
  | [] => needle.isEmpty
  | c :: rest => beginsWith needle (c :: rest) || occursIn needle rest

/-- The search for a text in another one finds it just where it stands somewhere in one piece. -/
theorem occursIn_iff {needle cs : List Char} : occursIn needle cs = true ↔ needle <:+: cs := by
  induction cs with
  | nil => rw [occursIn, List.isEmpty_iff, List.infix_nil]
  | cons c rest ih =>
    rw [occursIn, Bool.or_eq_true, beginsWith_iff, ih, List.infix_cons_iff]

/-- What stands before and behind the first occurrence of `mark`. -/
def cutAt? (mark : List Char) : List Char → Option (List Char × List Char)
  | [] => if mark.isEmpty then some ([], []) else none
  | c :: rest =>
    match after? mark (c :: rest) with
    | some behind => some ([], behind)
    | none => (cutAt? mark rest).map fun (before, behind) => (c :: before, behind)

end ApiOutline.Text
