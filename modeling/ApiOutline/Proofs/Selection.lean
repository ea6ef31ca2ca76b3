/-
The decoder that a description gets.

A description states its version in any form it likes, and two decoders are asked whether it is
theirs. All that decides is the number at the front of the version's text, the major one. Minor
number, patch and whatever else follows are read too, so that they may be too long to be numbers at
all; under the condition that no run of digits in the text is (`ShortRuns`), they come out as some
number and no range asks which (`holds_range`).

So each decoder takes the major number that it is there for (`accepts_eq_ok`), no two take the same
description, and a description with another number, or with none, is refused (`select_by_major`).

A version has a text only if it can be written, and the same goes for a refusal: what it carries is
part of its words. An object that states no version may have something under `openapi` that is too
large for that, and then there is no refusal but the fault of writing it (`not_select_refused`).
-/
import ApiOutline.Decode
import ApiOutline.Proofs.Failures
import ApiOutline.Proofs.Limits
import ApiOutline.Proofs.Version.Front

set_option autoImplicit false

namespace ApiOutline

/-- The major number of the versions that a dialect covers. -/
def Dialect.major : Dialect → Nat
  | .listing => 1
  | .paths => 2

theorem Dialect.major_injective {d e : Dialect} (h : d.major = e.major) : d = e := by
  cases d with
  | listing =>
    cases e with
    | listing => rfl
    | paths => exact absurd h (by decide)
  | paths =>
    cases e with
    | listing => exact absurd h (by decide)
    | paths => rfl

/-- A range asks for the major number and for nothing else: no version of its major number comes
before the least one that it names. -/
theorem Version.holds_range (v : Version) (d : Dialect) :
    ∃ r, Range.read? d.versionRange.toList = some r ∧ r.holds v = .ok (v.major == d.major) := by
  cases d with
  | listing => exact ⟨.anyMinor ['1'], rfl, rfl⟩
  | paths =>
    refine ⟨.caret ⟨['2'], some ['0'], none, []⟩, rfl, ?_⟩
    have hlow : (⟨['2'], some ['0'], none, []⟩ : Parts).version = .ok ⟨2, 0, 0⟩ := rfl
    have hmost : v.major = 2 → atMost ⟨2, 0, 0⟩ v = true := by
      intro hmajor
      simp only [atMost, hmajor]
      by_cases hminor : v.minor = 0
      · simp [hminor]
      · simp [Nat.pos_of_ne_zero hminor]
    simp only [Range.holds, hlow, Except.map, Dialect.major]
    by_cases hmajor : v.major = 2
    · rw [hmost hmajor, Bool.and_true]
    · simp [hmajor]

namespace Decoding

open Version (ShortRuns Opens)

/-- With short runs the text of a version is in the range of a decoder or not, by its major
number. -/
theorem satisfies_eq_ok {s : String} (hruns : ShortRuns s.toList) (d : Dialect) :
    ∃ taken, Version.satisfies s d.versionRange = .ok taken ∧
      (taken = true ↔ Opens s.toList d.major) := by
  unfold Version.satisfies
  rcases Version.read?_eq_ok hruns with ⟨v, hv, hopens⟩ | ⟨hnone, hopens⟩
  · obtain ⟨r, hr, hholds⟩ := Version.holds_range v d
    refine ⟨v.major == d.major, by rw [hv]; simp only [Outcome.ok_bind, hr, hholds], ?_⟩
    rw [beq_iff_eq]
    exact ⟨fun h => h ▸ hopens, fun h => hopens.unique h⟩
  · refine ⟨false, by rw [hnone]; rfl, ?_⟩
    exact ⟨fun h => absurd h Bool.false_ne_true, fun h => absurd h (hopens _)⟩

/-- What is missing is written as a word, and a word opens with no version. -/
theorem not_opens_null (n : Nat) : ¬ Opens (Value.text .null).toList n := by
  rintro ⟨front, -⟩
  have hnone : Version.digits? (Version.body (Value.text .null).toList) = none := by
    decide +kernel
  rw [Version.digits?_body_eq_some_iff.2 ⟨front, rfl, rfl⟩] at hnone
  exact nomatch hnone

section

variable {spec : Value} (hwritable : (statedVersion spec).Writable)
  (hruns : ShortRuns (statedVersion spec).text.toList)

include hwritable hruns

/-- A decoder answers, and it takes exactly the major number that it is there for. For the answer
the version has to be one that can be written, with runs of digits that can be read. One that is
absent is taken by no decoder. -/
theorem accepts_eq_ok (d : Dialect) :
    ∃ taken, accepts d spec = .ok taken ∧
      (taken = true ↔ Opens (statedVersion spec).text.toList d.major) := by
  unfold accepts
  rw [Value.checkText_eq_ok_iff.2 hwritable, Outcome.ok_bind]
  unfold Value.text?
  split
  next hnone =>
    have hnull : statedVersion spec = .null := by
      split at hnone
      next heq => exact heq
      next => exact nomatch hnone
    refine ⟨false, rfl, fun h => absurd h Bool.false_ne_true, ?_⟩
    rw [hnull]
    exact fun h => absurd h (not_opens_null _)
  next s hs =>
    have htext : (statedVersion spec).text = s := by
      split at hs
      next => exact nomatch hs
      next => exact Option.some.inj hs
    rw [htext] at hruns ⊢
    exact satisfies_eq_ok hruns d

/-- The decoders are asked one after the other, and the first that takes the description has it. If
none does, the refusal is worded before anything is told. -/
theorem select_outcome :
    (∃ d : Dialect, Opens (statedVersion spec).text.toList d.major ∧
      (select spec).outcome = .ok d) ∨
      ((∀ d : Dialect, ¬ Opens (statedVersion spec).text.toList d.major) ∧
        select spec = .fail (Refusal.unsupportedVersion (refusedVersion spec)).raised) := by
  obtain ⟨first, hfirst, hlisting⟩ := accepts_eq_ok hwritable hruns .listing
  obtain ⟨second, hsecond, hpaths⟩ := accepts_eq_ok hwritable hruns .paths
  unfold select
  cases first with
  | true =>
    refine .inl ⟨.listing, hlisting.1 rfl, ?_⟩
    rw [selectAmong, hfirst]
    rfl
  | false =>
    rw [selectAmong, hfirst, selectAmong, hsecond]
    cases second with
    | true => exact .inl ⟨.paths, hpaths.1 rfl, rfl⟩
    | false =>
      refine .inr ⟨fun d hd => ?_, rfl⟩
      cases d with
      | listing => exact absurd (hlisting.2 hd) Bool.false_ne_true
      | paths => exact absurd (hpaths.2 hd) Bool.false_ne_true

end

/-- What a refusal carries: the version that is stated, if there is one. -/
theorem refusedVersion_of_stated {spec : Value}
    (h : statedVersion spec ≠ .null ∨ ∀ es, spec ≠ .object es) :
    refusedVersion spec = statedVersion spec := by
  unfold refusedVersion
  split
  next es hnull =>
    rcases h with hstated | hobject
    · exact absurd hnull hstated
    · exact absurd rfl (hobject es)
  next => rfl

/-- **The major number decides.** No description is taken by both decoders. The one for listings
gets a description exactly when its version opens with the number one, the one for paths exactly
when it opens with two, whatever stands behind the number. Every other description is refused,
before anything is told, with the version that it states, or with what an object that states none
has under `openapi`. The latter may be too large to be written, and then that is what fails. -/
theorem select_by_major {spec : Value} (hwritable : (statedVersion spec).Writable)
    (hruns : ShortRuns (statedVersion spec).text.toList) :
    ¬ (accepts .listing spec = .ok true ∧ accepts .paths spec = .ok true) ∧
      (∀ d : Dialect, (select spec).outcome = .ok d ↔
        Opens (statedVersion spec).text.toList d.major) ∧
      ((∀ d : Dialect, ¬ Opens (statedVersion spec).text.toList d.major) →
        ∃ named : Value,
          (named.Writable →
            ∀ o, decode spec o = .fail (.refused (.unsupportedVersion named))) ∧
          (¬ named.Writable →
            ∃ f, named.checkText = .error f ∧ f.isSize = true ∧ ∀ o, decode spec o = .fail f) ∧
          (∀ es : Value.Entries, spec = .object es → statedVersion spec = .null →
            named = es.get "openapi") ∧
          (statedVersion spec ≠ .null ∨ (∀ es, spec ≠ .object es) →
            named = statedVersion spec ∧ named.Writable)) := by
  have hdecode : ∀ f, select spec = .fail f → ∀ o, decode spec o = .fail f := by
    intro f hf o
    rw [decode, hf]
    rfl
  refine ⟨?_, ?_, fun hnone => ⟨refusedVersion spec, ?_, ?_, ?_, ?_⟩⟩
  · rintro ⟨hlisting, hpaths⟩
    obtain ⟨first, hfirst, hone⟩ := accepts_eq_ok hwritable hruns .listing
    obtain ⟨second, hsecond, htwo⟩ := accepts_eq_ok hwritable hruns .paths
    have hone := hone.1 (Except.ok.inj (hfirst.symm.trans hlisting))
    have htwo := htwo.1 (Except.ok.inj (hsecond.symm.trans hpaths))
    exact absurd (hone.unique htwo) (by decide)
  · intro d
    rcases select_outcome hwritable hruns with ⟨e, he, hselect⟩ | ⟨hnone, hselect⟩
    · rw [hselect, Except.ok.injEq]
      exact ⟨fun h => h ▸ he, fun hd => Dialect.major_injective (he.unique hd)⟩
    · rw [hselect]
      exact ⟨fun h => (nomatch h), fun h => absurd h (hnone d)⟩
  · intro hnamed
    rcases select_outcome hwritable hruns with ⟨d, hd, -⟩ | ⟨-, hselect⟩
    · exact absurd hd (hnone d)
    · refine hdecode _ ?_
      rw [hselect, Refusal.raised, Refusal.checkText, Value.checkText_eq_ok_iff.2 hnamed]
  · intro hnamed
    rcases select_outcome hwritable hruns with ⟨d, hd, -⟩ | ⟨-, hselect⟩
    · exact absurd hd (hnone d)
    · cases hcheck : (refusedVersion spec).checkText with
      | ok done => exact absurd (Value.checkText_eq_ok_iff.1 hcheck) hnamed
      | error f =>
        refine ⟨f, rfl, Value.failsAs_checkText _ f hcheck, hdecode f ?_⟩
        rw [hselect, Refusal.raised, Refusal.checkText, hcheck]
  · rintro es rfl hnull
    simp only [refusedVersion, hnull]
  · intro hstated
    rw [refusedVersion_of_stated hstated]
    exact ⟨rfl, hwritable⟩

/-- Blanks, a mark, digits of another script, a patch and a suffix; the first field counts as
absent. -/
theorem select_by_major_fullWidth :
    let spec : Value := .object
      [(.str "swagger", .str ""), (.str "swaggerVersion", .str " v２.0.7-beta")]
    (statedVersion spec).Writable ∧ ShortRuns (statedVersion spec).text.toList ∧
      Opens (statedVersion spec).text.toList 2 ∧ (select spec).outcome = .ok .paths := by
  intro spec
  have hwritable : (statedVersion spec).Writable := Value.checkText_eq_ok_iff.1 rfl
  have hruns : ShortRuns (statedVersion spec).text.toList :=
    Version.shortRuns_of_length (by decide +kernel)
  have hopens : Opens (statedVersion spec).text.toList 2 := by
    refine ⟨⟨[' '], ['v'], ['２'], '.' :: "0.7-beta".toList, ?_, ?_, .inr rfl, ?_, ?_, ?_⟩, ?_⟩
    · decide +kernel
    · rw [List.forall_mem_singleton]
      decide +kernel
    · decide
    · rw [List.forall_mem_singleton]
      decide +kernel
    · intro c hc
      rw [← Option.mem_some.1 hc]
      decide +kernel
    · decide +kernel
  exact ⟨hwritable, hruns, hopens, ((select_by_major hwritable hruns).2.1 .paths).2 hopens⟩

/-- A number with one digit more than are written. -/
def tooLong : Value := .int (digitBound : Int)

/-- It has few levels, but it is not short. -/
theorem not_writable_tooLong : ¬ tooLong.Writable := by
  intro h
  have hshort : IsShort (digitBound : Int) := h.short _ (List.mem_singleton.2 rfl)
  rw [IsShort, Int.natAbs_natCast] at hshort
  exact Nat.lt_irrefl _ hshort

/-- Not every description that opens with neither number is refused for its version: where the
version that would be named has too many digits to be written, wording the refusal fails, and that
failure is what comes out. -/
theorem not_select_refused :
    ¬ ∀ spec : Value, ShortRuns (statedVersion spec).text.toList →
      (∀ d : Dialect, ¬ Opens (statedVersion spec).text.toList d.major) →
        ∃ named, ∀ o, decode spec o = .fail (.refused (.unsupportedVersion named)) := by
  intro h
  -- an object without a version, with that number where the version of a later family stands
  let spec : Value := .object [(.str "openapi", tooLong)]
  have hwritable : (statedVersion spec).Writable := Value.checkText_eq_ok_iff.1 rfl
  have hruns : ShortRuns (statedVersion spec).text.toList :=
    Version.shortRuns_of_length (by decide +kernel)
  have hnone : ∀ d : Dialect, ¬ Opens (statedVersion spec).text.toList d.major := fun d =>
    not_opens_null d.major
  obtain ⟨named, hrefused⟩ := h spec hruns hnone
  rcases select_outcome hwritable hruns with ⟨d, hd, -⟩ | ⟨-, hselect⟩
  · exact hnone d hd
  · cases hcheck : tooLong.checkText with
    | ok done => exact not_writable_tooLong (Value.checkText_eq_ok_iff.1 hcheck)
    | error f =>
      have hraised : (Refusal.unsupportedVersion (refusedVersion spec)).raised = f := by
        rw [Refusal.raised, Refusal.checkText, show refusedVersion spec = tooLong from rfl, hcheck]
      have hfails : decode spec {} = .fail f := by
        rw [decode, hselect, hraised]
        rfl
      obtain rfl : f = .refused (.unsupportedVersion named) :=
        Except.error.inj (congrArg Trace.outcome (hfails.symm.trans (hrefused {})))
      exact nomatch Value.failsAs_checkText _ _ hcheck

end Decoding

end ApiOutline
