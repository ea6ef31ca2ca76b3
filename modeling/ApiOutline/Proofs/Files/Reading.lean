/-
Reading what was written.

A path is followed from folder to folder, and where that succeeds it was never asked which files
there are. So a path that leads somewhere leads there on every disk with the same folders
(`locate_of_folders`), whatever has become of its files, and in particular after something was
written at its end. That is why a file that was written is found again under the same path, with
what was written in it (`read_write`).

Making folders can only ever make more paths lead somewhere. No file comes or goes by it, whether it
succeeds or not; that is shown beside the definitions.
-/
import ApiOutline.Files.Disk
import ApiOutline.Proofs.Outcome

set_option autoImplicit false

namespace ApiOutline.Files

/-- A path that need not lead to a folder ends in no dot. -/
theorem Path.dotted_of_not_toFolder {s : String} {p : Path} (h : ofText? s = some p)
    (hp : p.toFolder = false) : p.dotted = false := by
  unfold ofText? at h
  split at h
  · exact nomatch h
  · rw [← Option.some.inj h] at hp ⊢
    dsimp only at hp ⊢
    rcases List.eq_nil_or_concat (pieces s) with hnil | ⟨init, last, hlast⟩
    · rw [hnil] at hp
      exact nomatch hp
    · rw [List.concat_eq_append] at hlast
      rw [hlast, List.getLast?_concat] at hp
      have hstays : (last == "" || last == ".") = false := hp
      rw [Bool.or_eq_false_iff, beq_eq_false_iff_ne, beq_eq_false_iff_ne] at hstays
      have hkept : [last].filter (· != "") = [last] :=
        List.filter_cons_of_pos (bne_iff_ne.2 hstays.1)
      rw [hlast, List.filter_append, hkept, List.getLast?_concat, beq_eq_false_iff_ne]
      exact fun h => hstays.2 (Option.some.inj h)

namespace Disk

open Outcome

/-! ## Following a path -/

/-- A text leads to a place if it can be a path, and if its parts can be followed there. -/
theorem locate_eq_ok_iff {d : Disk} {s : String} {p : Path} {place : List String} :
    d.locate s = .ok (p, place) ↔ s.toList.contains '\x00' = false ∧ s.utf8ByteSize < pathLimit ∧
      Path.ofText? s = some p ∧ d.follow p = .ok place := by
  unfold locate
  by_cases hzero : s.toList.contains '\x00' = true
  · rw [if_pos hzero, hzero]
    exact ⟨fun h => (nomatch h), fun h => (nomatch h.1)⟩
  · rw [if_neg hzero]
    by_cases hlong : pathLimit ≤ s.utf8ByteSize
    · rw [if_pos hlong]
      exact ⟨fun h => (nomatch h), fun h => absurd h.2.1 (Nat.not_lt.2 hlong)⟩
    · rw [if_neg hlong]
      cases hpath : Path.ofText? s with
      | none => exact ⟨fun h => (nomatch h), fun h => (nomatch h.2.2.1)⟩
      | some q =>
        dsimp only
        rw [map_eq_ok_iff]
        constructor
        · rintro ⟨last, hlast, heq⟩
          obtain ⟨rfl, rfl⟩ := Prod.mk.inj heq
          exact ⟨Bool.not_eq_true _ ▸ hzero, Nat.lt_of_not_le hlong, rfl, hlast⟩
        · rintro ⟨-, -, hq, hfollow⟩
          obtain rfl := Option.some.inj hq
          exact ⟨place, hfollow, rfl⟩

/-- A part is entered from a folder, and it has to be short enough for a name. Nothing is asked
about the place that is entered, whether there is anything or not. -/
theorem enter_eq_ok_iff {d : Disk} {place next : List String} {part : String} :
    d.enter place part = .ok next ↔
      d.hasFolder place = true ∧ part.utf8ByteSize ≤ nameLimit ∧ next = Path.step place part := by
  unfold enter
  by_cases hfolder : d.hasFolder place = true
  · by_cases hlong : nameLimit < part.utf8ByteSize
    · simp only [hfolder, Bool.not_true, Bool.false_eq_true, if_false, if_pos hlong, true_and]
      constructor
      · intro h
        exact nomatch h
      · rintro ⟨hshort, -⟩
        omega
    · simp only [hfolder, Bool.not_true, Bool.false_eq_true, if_false, if_neg hlong, true_and]
      constructor
      · intro h
        exact ⟨by omega, (Except.ok.inj h).symm⟩
      · rintro ⟨-, rfl⟩
        rfl
  · simp only [hfolder, Bool.not_false, if_true, Bool.false_eq_true, false_and, iff_false]
    intro h
    exact nomatch h

section Folders

variable {d e : Disk} (hfolders : e.folders = d.folders) (hhere : e.here = d.here)

include hfolders

theorem hasFolder_of_folders (place : List String) : e.hasFolder place = d.hasFolder place := by
  rw [hasFolder, hasFolder, hfolders]

/-- Steps that succeed succeed without a look at any file. So a path leads to the same place on
every disk with the same folders. -/
theorem foldlM_enter_of_folders {parts : List String} {place last : List String}
    (h : parts.foldlM d.enter place = .ok last) : parts.foldlM e.enter place = .ok last := by
  induction parts generalizing place with
  | nil => exact h
  | cons part parts ih =>
    rw [List.foldlM_cons] at h ⊢
    obtain ⟨next, hnext, h⟩ := bind_eq_ok_iff.1 h
    have henter : e.enter place part = .ok next := by
      rw [enter_eq_ok_iff, hasFolder_of_folders hfolders]
      exact enter_eq_ok_iff.1 hnext
    rw [henter]
    exact ih h

include hhere

/-- **A path that leads somewhere leads there on every disk with the same folders.** -/
theorem locate_of_folders {s : String} {p : Path} {place : List String}
    (h : d.locate s = .ok (p, place)) : e.locate s = .ok (p, place) := by
  obtain ⟨hzero, hshort, hpath, hfollow⟩ := locate_eq_ok_iff.1 h
  refine locate_eq_ok_iff.2 ⟨hzero, hshort, hpath, ?_⟩
  unfold follow at hfollow ⊢
  rw [hhere]
  exact foldlM_enter_of_folders hfolders hfollow

end Folders

/-! ## Writing -/

/-- What a disk is on which something was written: the path leads to a place that is no folder, and
the file there is new or has other octets. -/
theorem write_eq_ok_iff {d e : Disk} {s : String} {octets : List UInt8} :
    d.write s octets = .ok e ↔
      ∃ p place, d.locate s = .ok (p, place) ∧ d.hasFolder place = false ∧ p.dotted = false ∧
        p.toFolder = false ∧ e = { d with files := replace place octets d.files } := by
  unfold write
  cases hlocate : d.locate s with
  | error problem =>
    constructor
    · intro h
      exact nomatch h
    · rintro ⟨p, place, h, -⟩
      exact nomatch h
  | ok found =>
    obtain ⟨p, place⟩ := found
    dsimp only
    constructor
    · intro h
      -- each test that could still fail was passed
      by_cases hfolder : d.hasFolder place = true
      · rw [if_pos hfolder] at h
        exact nomatch h
      · rw [if_neg hfolder] at h
        by_cases hdotted : p.dotted = true
        · rw [if_pos hdotted] at h
          exact nomatch h
        · rw [if_neg hdotted] at h
          by_cases htoFolder : p.toFolder = true
          · rw [if_pos htoFolder] at h
            exact nomatch h
          · rw [if_neg htoFolder] at h
            refine ⟨p, place, rfl, ?_, ?_, ?_, (Except.ok.inj h).symm⟩
            · exact Bool.not_eq_true _ ▸ hfolder
            · exact Bool.not_eq_true _ ▸ hdotted
            · exact Bool.not_eq_true _ ▸ htoFolder
    · rintro ⟨q, other, h, hfolder, hdotted, htoFolder, rfl⟩
      obtain ⟨rfl, rfl⟩ := Prod.mk.inj (Except.ok.inj h)
      simp only [hfolder, hdotted, htoFolder, Bool.false_eq_true, if_false]

/-- **What was written is read back**, and it stands at the end of the path, where no other file
is. -/
theorem read_write {d e : Disk} {s : String} {octets : List UInt8}
    (h : d.write s octets = .ok e) :
    e.read s = .ok octets ∧ ∃ p place, e.locate s = .ok (p, place) ∧
      ∀ other, other ≠ place → e.fileAt other = d.fileAt other := by
  obtain ⟨p, place, hlocate, hfolder, -, htoFolder, he⟩ := write_eq_ok_iff.1 h
  have hfolders : e.folders = d.folders := by rw [he]
  have hhere : e.here = d.here := by rw [he]
  have hfile : ∀ other, e.fileAt other = if other = place then some octets else d.fileAt other := by
    intro other
    rw [he]
    exact lookup_replace place other octets d.files
  have hlocate' : e.locate s = .ok (p, place) := locate_of_folders hfolders hhere hlocate
  have hat : e.at? place = some (.file octets) := by
    rw [at?, hasFolder_of_folders hfolders, hfolder, hfile, if_pos rfl]
    rfl
  constructor
  · rw [read, find, hlocate', ok_bind]
    dsimp only
    rw [hat]
    dsimp only
    rw [if_neg (by rw [htoFolder]; exact Bool.false_ne_true)]
  · refine ⟨p, place, hlocate', fun other hother => ?_⟩
    rw [hfile, if_neg hother]

end Disk

end ApiOutline.Files
