/-
Disks that differ in one file.

Two disks may be the same but for what is at one place: a file there, and none on the other
(`Apart`). A path that neither ends at the place nor leads through it (`Path.Avoids`) cannot tell
them apart. It is followed to the same place or to the same problem, step by step, since each step
asks only about the place where it is (`locate_eq`); what is read at its end is the same, and what
is written there is written on both, which leaves them as far apart as they were.

Making folders is the only operation that goes along a path itself, over its leads. They are what
stands in front of its slashes, and so their parts are the first parts of the path
(`LeadOf.parts`): a path that avoids a place avoids it with all of its leads (`Avoids.split`).
-/
import ApiOutline.Proofs.Files.Reading
import Mathlib.Data.List.Infix

set_option autoImplicit false

namespace ApiOutline

namespace Files

/-! ## Leads -/

namespace Path

/-- A path neither ends at a place nor leads through it. -/
def Avoids (here place : List String) (s : String) : Prop :=
  ∀ p, ofText? s = some p → ∀ way, way <+: p.parts → resolve here { p with parts := way } ≠ place

instance (here place : List String) (s : String) : Decidable (Avoids here place s) :=
  decidable_of_iff
    (∀ p ∈ ofText? s, ∀ way ∈ p.parts.inits, resolve here { p with parts := way } ≠ place)
    ⟨fun h p hp way hway => h p hp way ((List.mem_inits way p.parts).2 hway),
      fun h p hp way hway => h p hp way ((List.mem_inits way p.parts).1 hway)⟩

/-- The empty text is no path, so it leads nowhere. -/
theorem avoids_empty (here place : List String) : Avoids here place "" :=
  fun _ h => nomatch h

/-- A path is read from a text that is not empty: where it begins, and the pieces between its
slashes that lead anywhere. -/
theorem ofText_eq_some {s : String} {p : Path} (h : ofText? s = some p) :
    s ≠ "" ∧ p.fromRoot = (s.toList.head? == some '/') ∧
      p.parts = (pieces s).filter fun p => !stays p := by
  unfold ofText? at h
  split at h
  · exact nomatch h
  · next hs =>
    rw [← Option.some.inj h]
    exact ⟨fun hempty => hs (beq_iff_eq.2 hempty), rfl, rfl⟩

/-- Any other text is a path. -/
theorem exists_ofText {s : String} (h : s ≠ "") : ∃ p, ofText? s = some p := by
  rw [ofText?, if_neg fun hempty => h (beq_iff_eq.1 hempty)]
  exact ⟨_, rfl⟩

/-- A text stands in front of a slash of another one, with that slash or without it. -/
def LeadOf (t s : String) : Prop :=
  ∃ before behind : List Char, s.toList = before ++ '/' :: behind ∧
    (t.toList = before ∨ t.toList = before ++ ['/'])

/-- The lead of a path has the first parts of the path. -/
theorem LeadOf.parts {s t : String} {p q : Path} (h : LeadOf t s) (hp : ofText? s = some p)
    (hq : ofText? t = some q) : q.parts <+: p.parts := by
  obtain ⟨before, behind, hs, ht⟩ := h
  have hpieces : (pieces t).filter (fun p => !stays p) =
      ((Text.splitAt '/' before).map String.ofList).filter fun p => !stays p := by
    rcases ht with ht | ht
    · rw [pieces, ht]
    · rw [pieces, ht, Text.splitAt_append, List.map_append, List.filter_append]
      exact List.append_nil _
  rw [(ofText_eq_some hp).2.2, (ofText_eq_some hq).2.2, hpieces, pieces, hs, Text.splitAt_append,
    List.map_append, List.filter_append]
  exact List.prefix_append _ _

/-- The lead of a path begins where the path does. -/
theorem LeadOf.fromRoot {s t : String} {p q : Path} (h : LeadOf t s) (hp : ofText? s = some p)
    (hq : ofText? t = some q) : q.fromRoot = p.fromRoot := by
  obtain ⟨before, behind, hs, ht⟩ := h
  -- the lead is the front of the text
  have hfront : ∃ more, s.toList = t.toList ++ more := by
    rcases ht with ht | ht
    · exact ⟨'/' :: behind, by rw [hs, ht]⟩
    · exact ⟨behind, by rw [hs, ht, List.append_assoc, List.singleton_append]⟩
  obtain ⟨more, hmore⟩ := hfront
  have hnil : t.toList ≠ [] := fun h => (ofText_eq_some hq).1 (String.toList_eq_nil_iff.1 h)
  obtain ⟨c, cs, hcs⟩ := List.exists_cons_of_ne_nil hnil
  rw [(ofText_eq_some hp).2.1, (ofText_eq_some hq).2.1, hmore, hcs]
  rfl

/-- What has a lead has a slash in it. -/
theorem LeadOf.ne_empty {s t : String} (h : LeadOf t s) : s ≠ "" := by
  obtain ⟨before, behind, hs, -⟩ := h
  rintro rfl
  exact List.append_ne_nil_of_right_ne_nil before (List.cons_ne_nil '/' behind) hs.symm

/-- Everything up to the last slash is a lead, also without the slashes at its end. These are
taken off unless there is nothing else, for then they are the path of the root. -/
theorem leadOf_split {s : String} (h : (split s).1 ≠ "") : LeadOf (split s).1 s := by
  have hcut := List.takeWhile_append_dropWhile (p := (· != '/')) (l := s.toList.reverse)
  have hhead := List.head?_dropWhile_not (· != '/') s.toList.reverse
  unfold split at h ⊢
  dsimp only at h ⊢
  generalize s.toList.reverse.takeWhile (· != '/') = last at hcut
  generalize s.toList.reverse.dropWhile (· != '/') = lead at hcut hhead h ⊢
  have hs : s.toList = lead.reverse ++ last.reverse := by
    rw [← List.reverse_append, hcut, List.reverse_reverse]
  cases lead with
  | nil => exact absurd rfl h
  | cons c more =>
    obtain rfl : c = '/' := by simpa using hhead
    by_cases hall : ('/' :: more).all (· == '/') = true
    · -- nothing but slashes: they stay
      rw [if_pos hall]
      refine ⟨more.reverse, last.reverse, ?_, .inr ?_⟩
      · rw [hs, List.reverse_cons, List.append_assoc, List.singleton_append]
      · rw [String.toList_ofList, List.reverse_cons]
    · -- the slashes at the end go
      rw [if_neg hall]
      have hslashes : ∀ c ∈ more.takeWhile (· == '/'), c = '/' := fun c hc =>
        beq_iff_eq.1 (List.all_eq_true.1 List.all_takeWhile c hc)
      have hmore : more = more.takeWhile (· == '/') ++ more.dropWhile (· == '/') :=
        List.takeWhile_append_dropWhile.symm
      rw [List.eq_replicate_of_mem hslashes] at hmore
      generalize (more.takeWhile (· == '/')).length = k at hmore
      have hlead : ('/' :: more).reverse =
          (more.dropWhile (· == '/')).reverse ++ '/' :: List.replicate k '/' :=
        calc ('/' :: more).reverse
            = (List.replicate (k + 1) '/' ++ more.dropWhile (· == '/')).reverse := by
              rw [List.replicate_succ, List.cons_append, ← hmore]
          _ = (more.dropWhile (· == '/')).reverse ++ '/' :: List.replicate k '/' := by
              rw [List.reverse_append, List.reverse_replicate, List.replicate_succ]
      refine ⟨(more.dropWhile (· == '/')).reverse, List.replicate k '/' ++ last.reverse, ?_,
        .inl ?_⟩
      · rw [hs, hlead, List.append_assoc, List.cons_append]
      · rw [String.toList_ofList, List.dropWhile_cons_of_pos (by decide)]

/-- **A path that avoids a place avoids it with its lead.** -/
theorem Avoids.split {here place : List String} {s : String} (h : Avoids here place s) :
    Avoids here place (split s).1 := by
  by_cases hlead : (Path.split s).1 = ""
  · rw [hlead]
    exact avoids_empty here place
  · have hleadOf := leadOf_split hlead
    obtain ⟨p, hp⟩ := exists_ofText hleadOf.ne_empty
    intro q hq way hway
    have havoids := h p hp way (hway.trans (hleadOf.parts hp hq))
    rw [resolve] at havoids ⊢
    rw [hleadOf.fromRoot hp hq]
    exact havoids

/-- What a path leads through is a lead of it, or a lead of that one. -/
theorem Avoids.lastStep {here place : List String} {s : String} (h : Avoids here place s) :
    Avoids here place (Disk.lastStep s).1 := by
  unfold Disk.lastStep
  dsimp only
  split
  · exact h.split.split
  · exact h.split

end Path

namespace Disk

open Outcome

/-! ## Following paths -/

/-- Two disks with the same folders, and with the same files but for the one at a place. -/
structure Apart (place : List String) (d e : Disk) : Prop where
  folders : e.folders = d.folders
  here : e.here = d.here
  files : ∀ other, other ≠ place → e.fileAt other = d.fileAt other

namespace Apart

variable {place : List String} {d e : Disk} (h : Apart place d e)

include h

/-- Elsewhere the same is on both disks. -/
theorem at_eq {other : List String} (hother : other ≠ place) : e.at? other = d.at? other := by
  rw [at?, at?, hasFolder_of_folders h.folders, h.files other hother]

/-- A step from elsewhere succeeds or fails alike, as it asks about the place it starts from. -/
theorem enter_eq {other : List String} (hother : other ≠ place) (part : String) :
    e.enter other part = d.enter other part := by
  rw [enter, enter, hasFolder_of_folders h.folders, h.files other hother]

/-- Each step asks only about the place where it is. -/
theorem foldlM_enter_eq {parts : List String} {other : List String}
    (hother : ∀ way, way <+: parts → way.foldl Path.step other ≠ place) :
    parts.foldlM e.enter other = parts.foldlM d.enter other := by
  induction parts generalizing other with
  | nil => rfl
  | cons part parts ih =>
    have hhere : other ≠ place := hother [] List.nil_prefix
    rw [List.foldlM_cons, List.foldlM_cons, h.enter_eq hhere]
    refine Outcome.bind_congr_ok fun next hnext => ?_
    obtain ⟨-, -, rfl⟩ := enter_eq_ok_iff.1 hnext
    exact ih fun way hway => hother (part :: way) (List.cons_prefix_cons.2 ⟨rfl, hway⟩)

variable {s : String} (havoids : Path.Avoids d.here place s)

include havoids

/-- **A path that avoids the place leads to the same place on both disks.** -/
theorem locate_eq : e.locate s = d.locate s := by
  unfold locate
  cases hpath : Path.ofText? s with
  | none => rfl
  | some p =>
    have hfollow : e.follow p = d.follow p := by
      unfold follow
      rw [h.here]
      exact h.foldlM_enter_eq (havoids p hpath)
    dsimp only
    rw [hfollow]

end Apart

/-- A path that can be followed ends where it leads. -/
theorem foldlM_enter_eq_ok {d : Disk} {parts : List String} {other last : List String}
    (h : parts.foldlM d.enter other = .ok last) : last = parts.foldl Path.step other := by
  induction parts generalizing other with
  | nil => exact (Except.ok.inj h).symm
  | cons part parts ih =>
    rw [List.foldlM_cons] at h
    obtain ⟨next, hnext, h⟩ := bind_eq_ok_iff.1 h
    obtain ⟨-, -, rfl⟩ := enter_eq_ok_iff.1 hnext
    exact ih h

/-- So a path that avoids a place does not end there. -/
theorem locate_ne {d : Disk} {place other : List String} {s : String} {p : Path}
    (havoids : Path.Avoids d.here place s) (h : d.locate s = .ok (p, other)) : other ≠ place := by
  obtain ⟨-, -, hp, hfollow⟩ := locate_eq_ok_iff.1 h
  rw [foldlM_enter_eq_ok hfollow]
  exact havoids p hp p.parts (List.prefix_refl _)

/-! ## Reading -/

namespace Apart

variable {place : List String} {d e : Disk} (h : Apart place d e) {s : String}
  (havoids : Path.Avoids d.here place s)

include h havoids

/-- What is found at the end of such a path is the same on both disks, or the same problem is. -/
theorem find_eq : e.find s = d.find s := by
  unfold find
  rw [h.locate_eq havoids]
  refine Outcome.bind_congr_ok fun found hfound => ?_
  dsimp only
  rw [h.at_eq (locate_ne havoids hfound)]

theorem has_eq : e.has s = d.has s := by
  rw [has, has, h.find_eq havoids]

theorem isFolder_eq : e.isFolder s = d.isFolder s := by
  rw [isFolder, isFolder, h.find_eq havoids]

/-- **What is read at the end of a path that avoids the place is the same.** -/
theorem read_eq : e.read s = d.read s := by
  rw [read, read, h.find_eq havoids]

/-! ## Writing -/

/-- **What is written at the end of a path that avoids the place is written on both disks.** The
path leads to the same place on both, and what is there is the same, as it is not the place where
they differ. -/
theorem write (octets : List UInt8) : Both (Apart place) (d.write s octets) (e.write s octets) := by
  unfold Disk.write
  rw [h.locate_eq havoids]
  cases hlocate : d.locate s with
  | error problem => exact rfl
  | ok found =>
    obtain ⟨p, other⟩ := found
    dsimp only
    rw [hasFolder_of_folders h.folders, h.files other (locate_ne havoids hlocate)]
    split
    · exact rfl
    split
    · exact rfl
    split
    · exact rfl
    · refine ⟨h.folders, h.here, fun third hthird => ?_⟩
      rw [fileAt, fileAt, lookup_replace, lookup_replace]
      split
      · rfl
      · exact h.files third hthird

/-- A folder at the end of such a path is made on both, or for the same reason on neither. -/
theorem makeFolder : Both (Apart place) (d.makeFolder s) (e.makeFolder s) := by
  unfold Disk.makeFolder
  rw [h.locate_eq havoids]
  cases hlocate : d.locate s with
  | error problem => exact rfl
  | ok found =>
    obtain ⟨p, other⟩ := found
    dsimp only
    rw [h.at_eq (locate_ne havoids hlocate)]
    split
    · exact rfl
    · exact rfl
    split
    · exact rfl
    · exact ⟨congrArg (other :: ·) h.folders, h.here, h.files⟩

end Apart

/-- Making a folder leads nowhere: the place from which relative paths start stays. -/
theorem here_makeFolder {d e : Disk} {s : String} (h : d.makeFolder s = .ok e) :
    e.here = d.here := by
  unfold makeFolder at h
  split at h
  · exact nomatch h
  split at h
  · exact nomatch h
  · exact nomatch h
  split at h
  · exact nomatch h
  · rw [← Except.ok.inj h]

theorem here_ensureFolder (d : Disk) (s : String) : (d.ensureFolder s).1.here = d.here := by
  unfold ensureFolder
  split
  · next h => exact here_makeFolder h
  · rfl

/-- The same for all folders along a path, by induction on how many leads are still gone through.
-/
theorem here_makeFolders (fuel : Nat) (s : String) (d : Disk) :
    (makeFolders fuel s d).1.here = d.here := by
  induction fuel generalizing s d with
  | zero => exact here_ensureFolder d s
  | succ fuel ih =>
    -- the folders further up come first
    have hmade := ih (lastStep s).1 d
    rw [makeFolders]
    generalize makeFolders fuel (lastStep s).1 d = made at hmade
    dsimp only
    split
    · split
      · split
        · exact hmade
        · exact (here_ensureFolder made.1 s).trans hmade
      · exact hmade
    · exact here_ensureFolder d s

/-- Something was done to both disks, and the same is said about it. -/
structure After {α : Type} (place : List String) (r r' : Disk × α) : Prop where
  disk : Apart place r.1 r'.1
  said : r'.2 = r.2

namespace Apart

variable {place : List String} {d e : Disk} (h : Apart place d e) {s : String}
  (havoids : Path.Avoids d.here place s)

include h havoids

/-- A folder that has to be there is there on both disks afterwards, or the same problem is told.
-/
theorem ensureFolder : After place (d.ensureFolder s) (e.ensureFolder s) := by
  have hboth := h.makeFolder havoids
  unfold Disk.ensureFolder
  rw [h.isFolder_eq havoids]
  generalize d.makeFolder s = r at hboth
  generalize e.makeFolder s = r' at hboth
  cases r with
  | error f =>
    cases r' with
    | error f' =>
      obtain rfl : f = f' := hboth
      exact ⟨h, rfl⟩
    | ok e' => exact hboth.elim
  | ok d' =>
    cases r' with
    | error f' => exact hboth.elim
    | ok e' => exact ⟨hboth, rfl⟩

/-- **Folders on the way along a path that avoids the place are made on both disks.** The
induction is on the leads that may still be gone through, and a lead of a path that avoids the
place avoids it as well. -/
theorem makeFolders (fuel : Nat) :
    After place (Disk.makeFolders fuel s d) (Disk.makeFolders fuel s e) := by
  induction fuel generalizing s with
  | zero => exact h.ensureFolder havoids
  | succ fuel ih =>
    -- the folders further up come first, along a lead that avoids the place too
    have hmade := ih havoids.lastStep
    have hhere := here_makeFolders fuel (lastStep s).1 d
    rw [Disk.makeFolders, Disk.makeFolders, h.has_eq havoids.lastStep]
    generalize Disk.makeFolders fuel (lastStep s).1 d = made at hmade hhere
    generalize Disk.makeFolders fuel (lastStep s).1 e = made' at hmade
    dsimp only
    split
    · rw [hmade.said]
      split
      · split
        · exact ⟨hmade.disk, rfl⟩
        · exact hmade.disk.ensureFolder (hhere ▸ havoids)
      · exact hmade
    · exact h.ensureFolder havoids

end Apart

end Disk

end Files

end ApiOutline
