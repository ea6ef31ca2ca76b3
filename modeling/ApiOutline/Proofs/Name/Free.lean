/-
Free names.

A name that is taken gets the least number behind it, from two on, that makes it free. The search
for that number is bounded by how many names are taken, and the bound is never what stops it:
a name and its numbered forms are all different (`nodup_forms`), so more of them than there are
taken names cannot all be taken (`le_length_of_forms`). `given_freeAmong` is the result, said
without the search.

Names are given one after the other, each free among those before it. `inTurn` is the whole list
that comes of that, as a function of the names asked for; a later name never changes an earlier
one, so entry `i` of the list is a name given among the first `i` entries (`given_inTurn`), and
no name is in the list twice.
-/
import ApiOutline.Name.Method
import Mathlib.Data.List.Induction
import Mathlib.Data.List.Nodup

set_option autoImplicit false

namespace ApiOutline.Name

/-! ## Numbered names -/

/-- Different numbers are written in different digits: reading the digits gives the number back.
-/
theorem digitText_injective : Function.Injective Decimal.digitText := by
  intro m n h
  have hdigits : Nat.toDigits 10 m = Nat.toDigits 10 n := String.ofList_injective h
  rw [← Nat.ofDigitChars_ten_toDigits (n := m), hdigits, Nat.ofDigitChars_ten_toDigits]

/-- Different numbers behind one name make different names. What stands in front is the same text,
so it can be cancelled and the digits are left. -/
theorem numbered_injective (name : String) : Function.Injective (numbered name) := by
  intro m n h
  have hlists := congrArg String.toList h
  rw [numbered, numbered, String.toList_append, String.toList_append] at hlists
  exact digitText_injective (String.toList_injective (List.append_cancel_left hlists))

/-- A name is none of its numbered forms, since every number is written in at least one digit. -/
theorem ne_numbered (name : String) (k : Nat) : name ≠ numbered name k := by
  intro h
  have hlists := congrArg String.toList h
  rw [numbered, String.toList_append, Decimal.digitText, String.toList_ofList] at hlists
  exact Nat.toDigits_ne_nil (List.self_eq_append_right.1 hlists)

/-- A name and its numbered forms are all different. -/
theorem nodup_forms (name : String) (m : Nat) :
    (name :: (List.range' 2 m).map (numbered name)).Nodup := by
  refine List.nodup_cons.2 ⟨?_, List.Nodup.map (numbered_injective name) List.nodup_range'⟩
  intro hmem
  obtain ⟨j, -, hj⟩ := List.mem_map.1 hmem
  exact ne_numbered name j hj.symm

/-- Names among which a name and all its numbered forms below `k` are found are no fewer than
these. This is the pigeonhole that bounds the search: the forms are different, so each of them
uses up one of the names. -/
theorem le_length_of_forms {names : List String} {name : String} {k : Nat} (hname : name ∈ names)
    (hforms : ∀ j, 2 ≤ j → j < k → numbered name j ∈ names) : k ≤ names.length + 1 := by
  have hsubset : (name :: (List.range' 2 (k - 2)).map (numbered name)) ⊆ names := by
    refine List.cons_subset.2 ⟨hname, fun x hx => ?_⟩
    obtain ⟨j, hj, rfl⟩ := List.mem_map.1 hx
    rw [List.mem_range'_1] at hj
    exact hforms j hj.1 (by omega)
  have hlength := (nodup_forms name (k - 2)).length_le_of_subset hsubset
  rw [List.length_cons, List.length_map, List.length_range'] at hlength
  omega

/-! ## The search -/

section Search

variable (taken : String → Bool) (name : String)

/-- The search never goes below the number it starts at. -/
theorem le_leastFree (fuel k : Nat) : k ≤ leastFree taken name fuel k := by
  induction fuel generalizing k with
  | zero => exact Nat.le_refl k
  | succ fuel ih =>
    rw [leastFree]
    -- a number that is taken is passed, and the search goes on above it
    split
    · exact Nat.le_of_succ_le (ih (k + 1))
    · exact Nat.le_refl k

/-- Every number that the search has passed is taken, for that is the only reason to pass one. By
induction on the fuel: either the number is the one tried first, or the rest of the search passed
it. -/
theorem taken_of_lt_leastFree (fuel k j : Nat) (hk : k ≤ j) (hj : j < leastFree taken name fuel k) :
    taken (numbered name j) = true := by
  induction fuel generalizing k with
  | zero => rw [leastFree] at hj; omega
  | succ fuel ih =>
    rw [leastFree] at hj
    split at hj
    · next htaken =>
      rcases Nat.eq_or_lt_of_le hk with rfl | hlt
      · exact htaken
      · exact ih (k + 1) hlt hj
    · omega

/-- A search that ends at a number that is taken has tried all that it was allowed to. -/
theorem leastFree_eq_of_taken (fuel k : Nat)
    (h : taken (numbered name (leastFree taken name fuel k)) = true) :
    leastFree taken name fuel k = k + fuel := by
  induction fuel generalizing k with
  | zero => rfl
  | succ fuel ih =>
    rw [leastFree] at h ⊢
    split
    · next htaken =>
      rw [if_pos htaken] at h
      rw [ih (k + 1) h]
      omega
    · next hfree =>
      rw [if_neg hfree] at h
      exact absurd h hfree

/-- A search that may try as many numbers as there are names ends at one that is not taken. Had it
ended because the fuel was used up, the name and all forms it tried would be among the names, one
too many for their number. -/
theorem not_taken_leastFree {names : List String} (hnames : ∀ n, taken n = true → n ∈ names)
    {fuel : Nat} (hfuel : names.length ≤ fuel) :
    taken (numbered name (leastFree taken name fuel 2)) = false := by
  rw [← Bool.not_eq_true]
  intro htaken
  -- the search would have gone through all the numbers that it was allowed
  have hend := leastFree_eq_of_taken taken name fuel 2 htaken
  have hforms : ∀ j, 2 ≤ j → j < fuel + 3 → numbered name j ∈ name :: names := by
    intro j hj hlt
    refine List.mem_cons_of_mem name (hnames _ ?_)
    rcases Nat.eq_or_lt_of_le (Nat.le_of_lt_succ hlt) with rfl | hlt
    · rw [hend, Nat.add_comm] at htaken
      exact htaken
    · exact taken_of_lt_leastFree taken name fuel 2 j hj (by omega)
  have hlength := le_length_of_forms List.mem_cons_self hforms
  rw [List.length_cons] at hlength
  omega

end Search

/-! ## The name that is given -/

/-- What is given to one who asks for `base` among names that are taken: `base` itself, if it is
not taken, and otherwise `base` with the least number from two on with which it is not. -/
def Given (taken : List String) (base name : String) : Prop :=
  (base ∉ taken ∧ name = base) ∨
    (base ∈ taken ∧ ∃ k, 2 ≤ k ∧ name = numbered base k ∧ name ∉ taken ∧
      ∀ j, 2 ≤ j → j < k → numbered base j ∈ taken)

/-- A name that is given is none of those that were taken before. -/
theorem Given.not_mem {taken : List String} {base name : String} (h : Given taken base name) :
    name ∉ taken := by
  rcases h with ⟨hbase, rfl⟩ | ⟨_, k, _, _, hname, _⟩
  · exact hbase
  · exact hname

/-- **What the search returns is the name that should be given.** The fuel is as many tries as
there are taken names, and by `not_taken_leastFree` a free number turns up before it is used up,
so nothing in the statement speaks of fuel. -/
theorem given_freeAmong (taken : List String) (base : String) :
    Given taken base (freeAmong taken base) := by
  rw [freeAmong, free]
  -- a name that is not taken is given as it is
  by_cases hbase : base ∈ taken
  · rw [if_pos (List.contains_iff_mem.2 hbase)]
    refine .inr ⟨hbase, _, le_leastFree _ _ _ _, rfl, ?_, ?_⟩
    · have hfree := not_taken_leastFree taken.contains base
        (fun _ => List.contains_iff_mem.1) (Nat.le_refl taken.length)
      rw [← List.contains_iff_mem, hfree]
      exact Bool.false_ne_true
    · intro j hj hlt
      exact List.contains_iff_mem.1 (taken_of_lt_leastFree _ _ _ 2 j hj hlt)
  · rw [if_neg (by rw [List.contains_iff_mem]; exact hbase)]
    exact .inl ⟨hbase, rfl⟩

/-! ## Names in turn -/

/-- The names that are given to those who ask for `bases`, one after the other. -/
def inTurn (bases : List String) : List String :=
  bases.foldl (fun taken base => taken ++ [freeAmong taken base]) []

/-- Whoever asks last gets a name that is free among all the others, and changes none of them. -/
theorem inTurn_append_singleton (bases : List String) (base : String) :
    inTurn (bases ++ [base]) = inTurn bases ++ [freeAmong (inTurn bases) base] := by
  rw [inTurn, List.foldl_append, List.foldl_cons, List.foldl_nil]
  rfl

/-- Everyone who asks gets a name. -/
theorem length_inTurn (bases : List String) : (inTurn bases).length = bases.length := by
  induction bases using List.reverseRecOn with
  | nil => rfl
  | append_singleton bases base ih =>
    rw [inTurn_append_singleton, List.length_append, List.length_append, ih]
    rfl

/-- **Names that are given in turn are all different**, whatever was asked for. By induction on
those who ask, from the last one: it gets a name that is not taken. -/
theorem nodup_inTurn (bases : List String) : (inTurn bases).Nodup := by
  induction bases using List.reverseRecOn with
  | nil => exact List.nodup_nil
  | append_singleton bases base ih =>
    rw [inTurn_append_singleton]
    refine List.nodup_append.2 ⟨ih, List.nodup_singleton _, ?_⟩
    rintro x hx y hy rfl
    rw [List.mem_singleton.1 hy] at hx
    exact (given_freeAmong _ _).not_mem hx

/-- Each name is given among those before it. The induction takes the last base away, as a name
that was given is not changed by those behind it. -/
theorem given_inTurn (bases : List String) (i : Nat) (hb : i < bases.length)
    (hn : i < (inTurn bases).length) :
    Given ((inTurn bases).take i) bases[i] (inTurn bases)[i] := by
  induction bases using List.reverseRecOn with
  | nil => exact absurd hb (Nat.not_lt_zero i)
  | append_singleton bases base ih =>
    have hlen := length_inTurn bases
    simp only [inTurn_append_singleton]
    rcases Nat.lt_or_ge i bases.length with hlt | hge
    · -- an earlier name: neither it nor those before it are touched
      rw [List.take_append_of_le_length (by omega), List.getElem_append_left hlt,
        List.getElem_append_left (by omega)]
      exact ih hlt (by omega)
    · have hi : i = bases.length := by
        rw [List.length_append, List.length_singleton] at hb
        omega
      subst hi
      rw [List.getElem_append_right (Nat.le_refl _), List.getElem_append_right (by omega),
        List.take_append_of_le_length (by omega), List.take_of_length_le (by omega)]
      simp only [hlen, Nat.sub_self, List.getElem_cons_zero]
      exact given_freeAmong _ _

end ApiOutline.Name
