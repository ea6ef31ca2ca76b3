/-
Sets of characters as data.

A property of characters is stored as the code points that have it: in closed ranges when they
come in blocks, in stripes when they come in alternation. Membership is all that is asked of
either, and it is stated once here, so that the table modules hold nothing but the data.
-/

set_option autoImplicit false

namespace ApiOutline.Text

/-- Closed ranges of code points, ascending and disjoint. -/
abbrev Ranges := List (Nat × Nat)

/-- Membership in ascending ranges: the search ends at the first range that begins beyond `n`. -/
def Ranges.has : Ranges → Nat → Bool
  | [], _ => false
  | (lo, hi) :: rest, n => lo ≤ n && (n ≤ hi || Ranges.has rest n)

/-- Every `step`-th code point from `first` to `last`. -/
structure Stripe where
  first : Nat
  last : Nat
  step : Nat
  deriving Repr

/-- Membership in a stripe. -/
def Stripe.has (s : Stripe) (n : Nat) : Bool :=
  s.first ≤ n && n ≤ s.last && (n - s.first) % s.step == 0

/-- A member of ascending ranges lies in one of them. -/
theorem Ranges.mem_of_has {t : Ranges} {n : Nat} (h : Ranges.has t n = true) :
    ∃ r ∈ t, r.1 ≤ n ∧ n ≤ r.2 := by
  induction t with
  | nil => simp [Ranges.has] at h
  | cons r rest ih =>
    obtain ⟨lo, hi⟩ := r
    simp only [Ranges.has, Bool.and_eq_true, Bool.or_eq_true, decide_eq_true_eq] at h
    obtain ⟨hlo, hhi | hrest⟩ := h
    · exact ⟨(lo, hi), List.mem_cons_self, hlo, hhi⟩
    · obtain ⟨r, hr, hb⟩ := ih hrest
      exact ⟨r, List.mem_cons_of_mem _ hr, hb⟩

end ApiOutline.Text
