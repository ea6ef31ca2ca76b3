/-
What is in a folder.

A path that is put together of a folder and a name leads through all that the folder leads through,
and then one step further (`parts_join`). The last step is taken only from a folder. So where there
is anything at the end of such a path, the path before it leads to a folder, and need not be asked
whether it does (`isFolder_of_has_join`).
-/
import ApiOutline.Proofs.Files.Apart

set_option autoImplicit false

namespace ApiOutline.Files

namespace Path

/-- A name of an item in a folder: it leads one step further. -/
structure IsName (name : String) : Prop where
  slash : '/' ∉ name.toList
  leads : stays name = false

variable {folder name : String}

/-- The folder is a lead of what is in it. -/
theorem exists_join (folder name : String) :
    ∃ before : List Char, (join folder name).toList = before ++ '/' :: name.toList ∧
      (folder.toList = before ∨ folder.toList = before ++ ['/']) := by
  unfold join
  split
  · next hslash =>
    obtain ⟨before, hbefore⟩ := List.getLast?_eq_some_iff.1 (beq_iff_eq.1 hslash)
    refine ⟨before, ?_, .inr hbefore⟩
    rw [String.toList_append, hbefore, List.append_assoc, List.singleton_append]
  · refine ⟨folder.toList, ?_, .inl rfl⟩
    rw [String.toList_append, String.toList_append, List.append_assoc]
    rfl

theorem exists_eq_append_join (folder name : String) :
    ∃ more : String, join folder name = folder ++ more := by
  unfold join
  split
  · exact ⟨name, rfl⟩
  · exact ⟨"/" ++ name, String.append_assoc ..⟩

theorem leadOf_join (folder name : String) : LeadOf folder (join folder name) := by
  obtain ⟨before, hjoin, hfolder⟩ := exists_join folder name
  exact ⟨before, name.toList, hjoin, hfolder⟩

theorem pieces_of_isName (hname : IsName name) : pieces name = [name] := by
  rw [pieces, Text.splitAt_of_not_mem hname.slash, List.map_singleton, String.ofList_toList]

/-- **A path inside a folder takes one step more than the path of the folder.** -/
theorem parts_join (hname : IsName name) {p q : Path} (hp : ofText? (join folder name) = some p)
    (hq : ofText? folder = some q) : p.parts = q.parts ++ [name] := by
  obtain ⟨before, hjoin, hfolder⟩ := exists_join folder name
  have hpieces : pieces (join folder name) =
      (Text.splitAt '/' before).map String.ofList ++ [name] := by
    rw [pieces, hjoin, Text.splitAt_append, List.map_append, ← pieces, pieces_of_isName hname]
  have hparts : q.parts = ((Text.splitAt '/' before).map String.ofList).filter (!stays ·) := by
    rw [(ofText_eq_some hq).2.2, pieces]
    rcases hfolder with hfolder | hfolder
    · rw [hfolder]
    · -- a slash at the end adds an empty piece, which leads nowhere
      rw [hfolder, Text.splitAt_append, List.map_append, List.filter_append]
      exact List.append_nil _
  have hkept : [name].filter (!stays ·) = [name] :=
    List.filter_cons_of_pos (by rw [hname.leads]; rfl)
  rw [(ofText_eq_some hp).2.2, hpieces, List.filter_append, hkept, hparts]

end Path

namespace Disk

open Outcome
open Files.Path (IsName join)

/-- **Where there is something in a folder, there is the folder.** The path of what is in it takes
the steps of the folder and one more. A step is taken from a folder only, so what the first steps
lead to is one. -/
theorem isFolder_of_has_join {d : Disk} {folder name : String} (hfolder : folder ≠ "")
    (hname : IsName name) (h : d.has (join folder name) = true) : d.isFolder folder = true := by
  obtain ⟨item, hitem⟩ := exists_of_isOk h
  obtain ⟨⟨p, place⟩, hlocate, -⟩ := bind_eq_ok_iff.1 hitem
  obtain ⟨hzero, hshort, hpath, hfollow⟩ := locate_eq_ok_iff.1 hlocate
  obtain ⟨q, hq⟩ := Path.exists_ofText hfolder
  -- all steps but the last one are those of the folder
  have hsteps : d.follow p = (d.follow q).bind fun place => d.enter place name := by
    rw [follow, follow, Path.parts_join hname hpath hq,
      (Path.leadOf_join folder name).fromRoot hpath hq, List.foldlM_append]
    simp only [List.foldlM_cons, List.foldlM_nil, bind_pure]
    rfl
  rw [hsteps] at hfollow
  obtain ⟨last, hlast, henter⟩ := bind_eq_ok_iff.1 hfollow
  obtain ⟨more, hmore⟩ := Path.exists_eq_append_join folder name
  have hlocate' : d.locate folder = .ok (q, last) := by
    rw [hmore, String.toList_append, List.contains_eq_mem, decide_eq_false_iff_not,
      List.mem_append, not_or] at hzero
    rw [hmore, String.utf8ByteSize_append] at hshort
    refine locate_eq_ok_iff.2 ⟨?_, Nat.lt_of_le_of_lt (Nat.le_add_right _ _) hshort, hq, hlast⟩
    rw [List.contains_eq_mem, decide_eq_false_iff_not]
    exact hzero.1
  have hfind : d.find folder = .ok .folder := by
    rw [find, hlocate', Outcome.ok_bind]
    dsimp only
    rw [at?, if_pos (enter_eq_ok_iff.1 henter).1]
  rw [isFolder, hfind]

end Disk

end ApiOutline.Files
