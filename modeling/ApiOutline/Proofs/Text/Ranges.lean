/-
Ranges looked up as a whole.

Membership in a table is decided by a search that stops early. To see that two tables share no
character it is enough to look for each range of the one in the other, where the search stops just
as early: what begins beyond the range need not be looked at. Whether a table has every character
of a range is found in the same way, and whether it has every character of another table by going
through both at once.
-/
import ApiOutline.Text.Ranges
import Mathlib.Data.List.Chain

set_option autoImplicit false

namespace ApiOutline.Text.Ranges

/-- No range of a table, up to the first that begins beyond `hi`, has anything from `lo` to `hi`. -/
def misses (lo hi : Nat) : Ranges → Bool
  | [] => true
  | (a, b) :: rest => Nat.blt hi a || (Nat.blt b lo && misses lo hi rest)

/-- What `misses` was decided of holds of each code point between the bounds. By induction along
the ranges, up to the one that begins beyond them. -/
theorem has_eq_false_of_misses {t : Ranges} {lo hi n : Nat} (h : misses lo hi t = true)
    (hlo : lo ≤ n) (hhi : n ≤ hi) : t.has n = false := by
  induction t with
  | nil => rfl
  | cons r rest ih =>
    obtain ⟨a, b⟩ := r
    rw [misses, Bool.or_eq_true, Bool.and_eq_true, Nat.blt_eq, Nat.blt_eq] at h
    rw [has]
    rcases h with hbeyond | ⟨hbefore, hrest⟩
    · rw [decide_eq_false (by omega), Bool.false_and]
    · rw [ih hrest, Bool.or_false, decide_eq_false (p := n ≤ b) (by omega), Bool.and_false]

/-- Nothing in one table is in another. -/
def Apart (t u : Ranges) : Prop :=
  (t.all fun r => misses r.1 r.2 u) = true

instance (t u : Ranges) : Decidable (t.Apart u) :=
  inferInstanceAs (Decidable (_ = true))

/-- Tables that are apart have no code point in common. -/
theorem Apart.has_eq_false {t u : Ranges} (h : t.Apart u) {n : Nat} (hn : t.has n = true) :
    u.has n = false := by
  obtain ⟨r, hr, hlo, hhi⟩ := mem_of_has hn
  exact has_eq_false_of_misses (List.all_eq_true.1 h r hr) hlo hhi

/-- One range of a table has everything from `lo` to `hi`, and none before it begins beyond `lo`. -/
def spans (lo hi : Nat) : Ranges → Bool
  | [] => false
  | (a, b) :: rest => Nat.ble a lo && (Nat.ble hi b || spans lo hi rest)

/-- What `spans` was decided of holds of each code point between the bounds. -/
theorem has_of_spans {t : Ranges} {lo hi n : Nat} (h : spans lo hi t = true) (hlo : lo ≤ n)
    (hhi : n ≤ hi) : t.has n = true := by
  induction t with
  | nil => exact nomatch h
  | cons r rest ih =>
    obtain ⟨a, b⟩ := r
    rw [spans, Bool.and_eq_true, Bool.or_eq_true, Nat.ble_eq, Nat.ble_eq] at h
    obtain ⟨hbegin, hend⟩ := h
    rw [has, decide_eq_true (p := a ≤ n) (by omega), Bool.true_and, Bool.or_eq_true,
      decide_eq_true_eq]
    exact hend.imp (fun hb => by omega) ih

/-- Ranges in the order in which they begin. -/
def Ascending (t : Ranges) : Prop :=
  (t.map Prod.fst).IsChain (· ≤ ·)

instance (t : Ranges) : Decidable t.Ascending :=
  inferInstanceAs (Decidable (List.IsChain _ _))

/-- In an ascending table each range counts: the search that stops early never stops before it. -/
theorem Ascending.has_of_mem {t : Ranges} (h : t.Ascending) {r : Nat × Nat} (hr : r ∈ t) {n : Nat}
    (hlo : r.1 ≤ n) (hhi : n ≤ r.2) : t.has n = true := by
  -- neighbours in order are all in order, and that is what the induction needs
  have hpairs : t.Pairwise fun r s => r.1 ≤ s.1 :=
    List.pairwise_map.1 (List.isChain_iff_pairwise.1 h)
  clear h
  induction hpairs with
  | nil => exact nomatch hr
  | @cons s rest hs _ ih =>
    obtain ⟨a, b⟩ := s
    rw [has, Bool.and_eq_true, Bool.or_eq_true, decide_eq_true_eq, decide_eq_true_eq]
    rcases List.mem_cons.1 hr with rfl | hr
    · exact ⟨hlo, .inl hhi⟩
    · exact ⟨Nat.le_trans (hs r hr) hlo, .inr (ih hr)⟩

/-- Every range of a table lies in one of another. Both are gone through once. -/
def hasAll : (t u : Ranges) → Bool
  | _, [] => true
  | [], _ :: _ => false
  | (a, b) :: rest, r :: u =>
    hasAll rest ((r :: u).dropWhile fun r => Nat.ble a r.1 && Nat.ble r.2 b)

/-- Each range of the smaller table lies in one of the larger. By induction on the walk through
both: the ranges that are passed over lie in the present one, the others are found later. -/
theorem exists_of_hasAll {t u : Ranges} (h : t.hasAll u = true) {r : Nat × Nat} (hr : r ∈ u) :
    ∃ s ∈ t, s.1 ≤ r.1 ∧ r.2 ≤ s.2 := by
  fun_induction hasAll t u with
  | case1 => exact nomatch hr
  | case2 => exact nomatch h
  | case3 a b rest q u ih =>
    rw [← List.takeWhile_append_dropWhile (p := fun r => Nat.ble a r.1 && Nat.ble r.2 b)
      (l := q :: u)] at hr
    -- a range that is passed over lies in the present one, any other is found further on
    rcases List.mem_append.1 hr with hr | hr
    · have hin := List.all_eq_true.1 List.all_takeWhile r hr
      rw [Bool.and_eq_true, Nat.ble_eq, Nat.ble_eq] at hin
      exact ⟨(a, b), List.mem_cons_self, hin⟩
    · obtain ⟨s, hs, hbounds⟩ := ih h hr
      exact ⟨s, List.mem_cons_of_mem _ hs, hbounds⟩

/-- An ascending table that has all ranges of another has all its members. -/
theorem Ascending.has_of_has {t u : Ranges} (h : t.Ascending) (hall : t.hasAll u = true) {n : Nat}
    (hn : u.has n = true) : t.has n = true := by
  obtain ⟨r, hr, hlo, hhi⟩ := mem_of_has hn
  obtain ⟨s, hs, hfirst, hlast⟩ := exists_of_hasAll hall hr
  exact h.has_of_mem hs (Nat.le_trans hfirst hlo) (Nat.le_trans hhi hlast)

/-- What lies in the first range of a table is in the table. -/
theorem has_of_first {lo hi n : Nat} {rest : Ranges} (hlo : lo ≤ n) (hhi : n ≤ hi) :
    has ((lo, hi) :: rest) n = true := by
  rw [has, decide_eq_true hlo, decide_eq_true hhi]
  rfl

end ApiOutline.Text.Ranges
