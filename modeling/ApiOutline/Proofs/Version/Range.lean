/-
What ranges hold.

Versions are ordered by their numbers, the major number first (`key`), and `atMost` is this order. A
range of a major version with any minor one holds what has that major number. A caret range begins
at the version that it names and ends where the major number changes: it holds what lies between
that version and the next major one (`caret_holds`).

Semantic versioning lets a caret range end earlier if the major number is zero: where the first
number changes that is not zero, or the last one that is written (`Printed.caretEnd`). Such ends are
not looked at here. So the answers are those of semantic versioning unless the major number is zero
and more is written (`Printed.caretEnd_eq_iff`), and then what lies from the one end to the other is
held although semantic versioning leaves it out (`caret_holds_semantic_iff`).
-/
import ApiOutline.Proofs.Outcome
import ApiOutline.Proofs.Version.Printed
import Mathlib.Data.Prod.Lex

set_option autoImplicit false

namespace ApiOutline.Version

/-! ## The order of versions -/

def key (v : Version) : ℕ ×ₗ ℕ ×ₗ ℕ :=
  toLex (v.major, toLex (v.minor, v.patch))

/-- A version is its three numbers, so no two have the same key. -/
theorem key_injective : Function.Injective key := by
  intro v w h
  cases v
  cases w
  simpa [key] using h

instance : LinearOrder Version := LinearOrder.lift' key key_injective

/-- The order by keys, spelled out: the first number that differs decides. -/
theorem lt_iff {v w : Version} :
    v < w ↔ v.major < w.major ∨ (v.major = w.major ∧
      (v.minor < w.minor ∨ (v.minor = w.minor ∧ v.patch < w.patch))) := by
  have hminor : toLex (v.minor, v.patch) < toLex (w.minor, w.patch) ↔
      v.minor < w.minor ∨ (v.minor = w.minor ∧ v.patch < w.patch) := Prod.Lex.toLex_lt_toLex
  rw [← hminor]
  exact Prod.Lex.toLex_lt_toLex

/-- The same for at most. -/
theorem le_iff {v w : Version} :
    v ≤ w ↔ v.major < w.major ∨ (v.major = w.major ∧
      (v.minor < w.minor ∨ (v.minor = w.minor ∧ v.patch ≤ w.patch))) := by
  have hminor : toLex (v.minor, v.patch) ≤ toLex (w.minor, w.patch) ↔
      v.minor < w.minor ∨ (v.minor = w.minor ∧ v.patch ≤ w.patch) := Prod.Lex.toLex_le_toLex
  rw [← hminor]
  exact Prod.Lex.toLex_le_toLex

/-- **The comparison of the decoder is the order of versions.** -/
theorem atMost_iff {v w : Version} : v.atMost w = true ↔ v ≤ w := by
  rw [le_iff]
  simp [atMost]

/-- The first version with the next major number. -/
def nextMajor (v : Version) : Version :=
  ⟨v.major + 1, 0, 0⟩

/-- The next major version comes later. -/
theorem lt_nextMajor (v : Version) : v < v.nextMajor :=
  lt_iff.2 (.inl (Nat.lt_succ_self v.major))

/-- The versions from one to the next major one are the later ones with its major number. -/
theorem major_eq_and_le_iff {low v : Version} :
    (v.major = low.major ∧ low ≤ v) ↔ low ≤ v ∧ v < low.nextMajor := by
  rw [le_iff, lt_iff]
  simp only [nextMajor]
  omega

/-! ## Ranges as they are written -/

/-- A digit is no caret, so the two kinds of ranges are told apart by their first character. -/
theorem ne_caret_of_isDecimal {c : Char} (h : Text.isDecimal c = true) : c ≠ '^' := by
  rintro rfl
  exact absurd h (by decide +kernel)

/-- A number with an `x` for the minor one. It begins with a digit, so it is not taken for a range
with a caret. -/
theorem read?_anyMinor (n : Nat) :
    Range.read? (Decimal.digitText n ++ ".x").toList = some (.anyMinor (Nat.toDigits 10 n)) := by
  have htext : (Decimal.digitText n ++ ".x").toList = Nat.toDigits 10 n ++ ['.', 'x'] := by
    rw [String.toList_append, Decimal.digitText, String.toList_ofList]
    rfl
  have hdigits := digits?_toDigits n (noDigit_point ['x'])
  rw [htext]
  unfold Range.read?
  split
  next rest heq =>
    -- a caret would be one of the digits
    obtain ⟨d, more, hcons⟩ := List.exists_cons_of_ne_nil (Nat.toDigits_ne_nil (n := n) (b := 10))
    rw [hcons] at heq
    have hd : Text.isDecimal d = true :=
      isDecimal_of_mem_toDigits (n := n) (hcons ▸ List.mem_cons_self)
    exact absurd (List.cons.inj heq).1 (ne_caret_of_isDecimal hd)
  next =>
    rw [hdigits]
    rfl

/-- A caret and a printed version. The version has to be all that stands there, so its parts leave
no rest. -/
theorem read?_caret (x : Printed) :
    Range.read? ("^" ++ x.text).toList = some (.caret (x.parts [])) := by
  -- nothing stands behind the version
  have hends : x.Ends [] := by
    have hdigit : NoDigit [] := fun c hc => nomatch hc
    have hpart : NoPart [] := fun behind heq => nomatch heq
    cases x with
    | major a => exact ⟨hdigit, hpart⟩
    | minor a b => exact ⟨hdigit, hpart⟩
    | patch a b c => exact hdigit
  have hparts := x.parts?_append hends
  have hrest : (x.parts []).rest = [] := by cases x <;> rfl
  rw [List.append_nil] at hparts
  have htext : ("^" ++ x.text).toList = '^' :: x.text.toList := by
    rw [String.toList_append]
    rfl
  rw [htext]
  simp only [Range.read?, hparts, Option.bind_some, hrest]
  rfl

section Answers

variable {version : String} {v : Version}

/-- A text that has a version is in a range that is known if the version is. -/
theorem satisfies_eq {range : String} {r : Range} (hv : read? version = .ok (some v))
    (hr : Range.read? range.toList = some r) : satisfies version range = r.holds v := by
  unfold satisfies
  rw [hv]
  simp only [Outcome.ok_bind, hr]

/-- A range of a major version with any minor one holds exactly what has that major number. -/
theorem anyMinor_holds {n : Nat} (hv : read? version = .ok (some v))
    (hn : (Decimal.digitText n).length ≤ Fault.digitLimit) :
    satisfies version (Decimal.digitText n ++ ".x") = .ok (decide (v.major = n)) := by
  rw [satisfies_eq hv (read?_anyMinor n), Range.holds, number_toDigits hn]
  rfl

/-- **A caret range holds what lies between its version and the next major one.** -/
theorem caret_holds {x : Printed} (hv : read? version = .ok (some v)) (hx : x.Short) :
    satisfies version ("^" ++ x.text) =
      .ok (decide (x.version ≤ v ∧ v < x.version.nextMajor)) := by
  -- the same major number and not earlier means to lie before the next one
  have hanswer : (v.major == x.version.major && x.version.atMost v) =
      decide (x.version ≤ v ∧ v < x.version.nextMajor) := by
    rw [Bool.eq_iff_iff, Bool.and_eq_true, beq_iff_eq, atMost_iff, decide_eq_true_iff,
      major_eq_and_le_iff]
  rw [satisfies_eq hv (read?_caret x), Range.holds, Printed.version_parts hx, ← hanswer]
  rfl

end Answers

/-! ## Where semantic versioning ends a caret range -/

namespace Printed

/-- The first version beyond a caret range: the first number that is not zero has grown, or, if all
are zero, the last one that is written. -/
def caretEnd : Printed → Version
  | .major a => ⟨a + 1, 0, 0⟩
  | .minor a b => if a ≠ 0 then ⟨a + 1, 0, 0⟩ else ⟨0, b + 1, 0⟩
  | .patch a b c =>
    if a ≠ 0 then ⟨a + 1, 0, 0⟩ else if b ≠ 0 then ⟨0, b + 1, 0⟩ else ⟨0, 0, c + 1⟩

/-- This is the next major version, or else, when the major number is zero and more is written, a
later version that has the major number zero, too. -/
theorem caretEnd_cases (x : Printed) :
    ((x.version.major ≠ 0 ∨ ∃ a, x = .major a) ∧ x.caretEnd = x.version.nextMajor) ∨
      ((x.version.major = 0 ∧ ∀ a, x ≠ .major a) ∧ x.version < x.caretEnd ∧
        x.caretEnd.major = 0) := by
  -- by how many numbers are written, and then by which of them are zero
  cases x with
  | major a => exact .inl ⟨.inr ⟨a, rfl⟩, rfl⟩
  | minor a b =>
    by_cases ha : a = 0
    · right
      rw [lt_iff]
      simp [caretEnd, version, ha]
    · left
      simp [caretEnd, version, nextMajor, ha]
  | patch a b c =>
    by_cases ha : a = 0
    · right
      rw [lt_iff]
      by_cases hb : b = 0
      · simp [caretEnd, version, ha, hb]
      · simp [caretEnd, version, ha, hb]
    · left
      simp [caretEnd, version, nextMajor, ha]

/-- The two ends are the same unless the major number is zero and more is written. -/
theorem caretEnd_eq_iff (x : Printed) :
    x.caretEnd = x.version.nextMajor ↔ x.version.major ≠ 0 ∨ ∃ a, x = .major a := by
  rcases x.caretEnd_cases with ⟨hsame, hend⟩ | ⟨⟨hzero, hmore⟩, -, hend⟩
  · exact ⟨fun _ => hsame, fun _ => hend⟩
  · constructor
    · intro h
      rw [h] at hend
      exact absurd hend (Nat.succ_ne_zero _)
    · rintro (hnot | ⟨a, ha⟩)
      · exact absurd hzero hnot
      · exact absurd ha (hmore a)

/-- A caret range holds the version that it names, by semantic versioning too. -/
theorem version_lt_caretEnd (x : Printed) : x.version < x.caretEnd := by
  rcases x.caretEnd_cases with ⟨-, hend⟩ | ⟨-, hlater, -⟩
  · rw [hend]
    exact x.version.lt_nextMajor
  · exact hlater

/-- The end of semantic versioning is never later than the next major version. -/
theorem caretEnd_le_nextMajor (x : Printed) : x.caretEnd ≤ x.version.nextMajor := by
  rcases x.caretEnd_cases with ⟨-, hend⟩ | ⟨-, -, hend⟩
  · exact hend.le
  · have hmajor : x.caretEnd.major < x.version.nextMajor.major := by
      rw [hend]
      exact Nat.succ_pos _
    exact le_iff.2 (.inl hmajor)

end Printed

section Answers

variable {version : String} {v : Version}

/-- The test agrees with semantic versioning but for the versions from the one end to the other. -/
theorem caret_holds_semantic_iff {x : Printed} (hv : read? version = .ok (some v))
    (hx : x.Short) :
    satisfies version ("^" ++ x.text) = .ok (decide (x.version ≤ v ∧ v < x.caretEnd)) ↔
      ¬ (x.caretEnd ≤ v ∧ v < x.version.nextMajor) := by
  rw [caret_holds hv hx, Except.ok.injEq, decide_eq_decide]
  constructor
  · rintro h ⟨hend, hnext⟩
    have hlow : x.version ≤ v := (x.version_lt_caretEnd.trans_le hend).le
    have hbefore : v < x.caretEnd := (h.1 ⟨hlow, hnext⟩).2
    exact absurd hend (not_le.2 hbefore)
  · intro h
    constructor
    · rintro ⟨hlow, hnext⟩
      have hbefore : v < x.caretEnd := not_le.1 fun hend => h ⟨hend, hnext⟩
      exact ⟨hlow, hbefore⟩
    · rintro ⟨hlow, hbefore⟩
      exact ⟨hlow, hbefore.trans_le x.caretEnd_le_nextMajor⟩

/-- **What the ranges hold.** A text that has a version is in the range of a major version exactly
when it has that major number. It is in a caret range exactly when its version lies from the one
that is named to the next major one. Semantic versioning gives the same answers but for the versions
that lie beyond its own end of the range and before the next major version, and there are such only
if the major number is zero and more is written. -/
theorem satisfies_ranges (hv : read? version = .ok (some v)) :
    (∀ n, (Decimal.digitText n).length ≤ Fault.digitLimit →
      satisfies version (Decimal.digitText n ++ ".x") = .ok (decide (v.major = n))) ∧
      ∀ x : Printed, x.Short →
        satisfies version ("^" ++ x.text) =
          .ok (decide (x.version ≤ v ∧ v < x.version.nextMajor)) ∧
        (satisfies version ("^" ++ x.text) = .ok (decide (x.version ≤ v ∧ v < x.caretEnd)) ↔
          ¬ (x.caretEnd ≤ v ∧ v < x.version.nextMajor)) ∧
        (x.caretEnd = x.version.nextMajor ↔ x.version.major ≠ 0 ∨ ∃ a, x = .major a) := by
  refine ⟨fun n hn => anyMinor_holds hv hn, fun x hx => ⟨?_, ?_, ?_⟩⟩
  · exact caret_holds hv hx
  · exact caret_holds_semantic_iff hv hx
  · exact x.caretEnd_eq_iff

end Answers

/-- A later minor version is in the range of its major number and in the caret range of an earlier
minor one. -/
theorem satisfies_ranges_pair :
    read? " v2.4-rc.1" = .ok (some ⟨2, 4, 0⟩) ∧
      satisfies " v2.4-rc.1" "2.x" = .ok true ∧ satisfies " v2.4-rc.1" "^2.1.7" = .ok true := by
  have hv : read? " v2.4-rc.1" = .ok (some ⟨2, 4, 0⟩) := rfl
  have hshort : (Printed.patch 2 1 7).Short := by
    unfold Printed.Short
    decide +kernel
  exact ⟨hv, (satisfies_ranges hv).1 2 (by decide +kernel),
    ((satisfies_ranges hv).2 (.patch 2 1 7) hshort).1⟩

/-- The next minor version of one before the first is held, though semantic versioning ends the
range there: with zero as the major number the range should not go beyond the minor one. -/
theorem not_semantic : ¬ ∀ (version : String) (v : Version) (x : Printed),
    read? version = .ok (some v) → x.Short →
      satisfies version ("^" ++ x.text) = .ok (decide (x.version ≤ v ∧ v < x.caretEnd)) := by
  intro h
  have hv : read? "0.3.0" = .ok (some ⟨0, 3, 0⟩) := rfl
  have hshort : (Printed.minor 0 2).Short := by
    unfold Printed.Short
    decide +kernel
  have hheld : satisfies "0.3.0" ("^" ++ (Printed.minor 0 2).text) = .ok true := rfl
  have hanswer := h "0.3.0" ⟨0, 3, 0⟩ (.minor 0 2) hv hshort
  rw [hheld, Except.ok.injEq, eq_comm, decide_eq_true_iff] at hanswer
  exact lt_irrefl (⟨0, 3, 0⟩ : Version) hanswer.2

end ApiOutline.Version
