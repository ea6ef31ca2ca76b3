/-
Settings that are found.

Settings are looked for in one file: the one in the folder that was named, if it is there, and
otherwise the one whose path was given (`choose_eq`). A file that is not there, a folder in its
place and a text that is no TOML all say that there are no settings, and are no fault. In a table
the settings are found by name. No name comes twice in one (`Toml.named_parse`), so that it does not
matter in which order they stand there: each of the eight is what the table says, or what it is by
default, and there is nothing else for the table to change (`entries_ofKnown`).

Only octets that are no UTF-8 are a fault. A file of them is as unreadable as the others, but it is
not counted as one.
-/
import ApiOutline.Proofs.Files.Inside
import ApiOutline.Proofs.Toml.Names
import ApiOutline.Proofs.Settings

set_option autoImplicit false

namespace ApiOutline.Settings

open Files (Disk)
open Files.Path (join IsName)
open Value (Entries lookup lookup_cons_str lookup_eq_none_of_not_mem)

/-! ## The settings of a table -/

/-- Settings are the same if they are written the same, so what is shown of each name is shown of
the settings. -/
theorem eq_of_entries {s t : Settings} (h : s.entries = t.entries) : s = t := by
  cases s
  cases t
  simp_all [entries]

/-- Setting one changes what is written under its name. Under a name that is none of theirs nothing
is written. -/
theorem entries_set (s : Settings) (name : String) (v : Value) :
    ((s.set? name v).getD s).entries =
      s.entries.map fun e => (e.1, if e.1 = .str name then v else e.2) := by
  unfold set?
  split
  case h_9 => simp_all [entries, eq_comm]
  all_goals simp [entries]

/-- Settings are written under texts, and under each of them once. -/
theorem named_entries (s : Settings) : Toml.Named s.entries := by
  refine ⟨fun e he => ?_, nodup_keys s⟩
  simp only [entries, List.mem_cons, List.not_mem_nil, or_false] at he
  rcases he with rfl | rfl | rfl | rfl | rfl | rfl | rfl | rfl
  all_goals exact ⟨_, rfl⟩

/-- What is written under each name, on top of what is written there before. By induction along
the entries: each sets one name, and comes to stand in front of those behind it, which do not name
it again. -/
theorem entries_foldl {es : Entries} (h : Toml.Named es) (s : Settings) :
    (es.foldl (fun s e => (s.set? e.1.text e.2).getD s) s).entries =
      s.entries.map fun e => (e.1, (lookup e.1 es).getD e.2) := by
  induction es generalizing s with
  | nil => exact (List.map_id _).symm
  | cons e es ih =>
    obtain ⟨k, v⟩ := e
    obtain ⟨name, rfl : k = .str name⟩ := h.texts _ List.mem_cons_self
    have hnew : lookup (.str name) es = none := lookup_eq_none_of_not_mem h.ne_head
    rw [List.foldl_cons, ih h.tail]
    dsimp only [Scalar.text]
    rw [entries_set, List.map_map]
    refine List.map_congr_left fun e he => ?_
    obtain ⟨other, hother⟩ := (named_entries s).texts e he
    dsimp only [Function.comp_apply]
    -- names are looked up in the whole table, of which the first entry is one
    rw [hother, lookup_cons_str]
    simp only [Scalar.str.injEq]
    by_cases hname : other = name
    · -- the table says it here, and nowhere behind
      rw [if_pos hname, if_pos hname.symm, hname, hnew]
      rfl
    · rw [if_neg hname, if_neg fun h => hname h.symm]

/-- **A table sets what it names, and all others are as they are by default.** -/
theorem entries_ofKnown {es : Entries} (h : Toml.Named es) :
    (ofKnown es).entries = ({} : Settings).entries.map fun e => (e.1, (lookup e.1 es).getD e.2) :=
  entries_foldl h {}

/-! ## The file -/

/-- The default path is a name by itself, with no folder in it. -/
theorem isName_defaultPath : IsName defaultPath := ⟨by decide, by decide⟩

/-- **The file in the folder is chosen where it is there.** -/
theorem choose_eq (disk : Disk) (path folder : String) :
    choose disk path folder =
      if folder ≠ "" ∧ disk.has (join folder defaultPath) = true then join folder defaultPath
      else path := by
  have hboth : (folder != "" && disk.isFolder folder && disk.has (join folder defaultPath)) = true ↔
      folder ≠ "" ∧ disk.has (join folder defaultPath) = true := by
    rw [Bool.and_eq_true, Bool.and_eq_true, bne_iff_ne]
    constructor
    · rintro ⟨⟨hfolder, -⟩, hhas⟩
      exact ⟨hfolder, hhas⟩
    · rintro ⟨hfolder, hhas⟩
      exact ⟨⟨hfolder, Disk.isFolder_of_has_join hfolder isName_defaultPath hhas⟩, hhas⟩
  exact if_congr hboth rfl rfl

/-- There is a file at the end of a path, and a text in it. -/
def Holds (disk : Disk) (path text : String) : Prop :=
  ∃ octets s, disk.find path = .ok (.file octets) ∧ Text.decodeUtf8? octets = some s ∧
    text = String.ofList (Text.unifyBreaks s.toList)

/-- There is a file at the end of a path, and what is in it is no text. -/
def HoldsNoText (disk : Disk) (path : String) : Prop :=
  ∃ octets, disk.find path = .ok (.file octets) ∧ Text.decodeUtf8? octets = none

section

variable {disk : Disk} {path folder file : String} (hfile : choose disk path folder = file)

include hfile

/-- Nothing is found where there is nothing, or a folder. -/
theorem load_of_no_file (h : disk.has file = false ∨ disk.isFolder file = true) :
    load disk path folder = .ok none := by
  -- reading fails in both cases, with a fault of its own in each
  have hread : ∃ f, disk.read file = .error f := by
    unfold Disk.has Disk.isFolder at h
    unfold Disk.read
    split
    · next octets hfind =>
      rw [hfind] at h
      rcases h with h | h <;> exact nomatch h
    · exact ⟨_, rfl⟩
    · exact ⟨_, rfl⟩
  obtain ⟨f, hread⟩ := hread
  unfold load
  dsimp only
  rw [hfile, hread]

/-- The only fault is a file that is no text. -/
theorem load_of_holdsNoText (h : HoldsNoText disk file) :
    load disk path folder = .error ⟨file⟩ := by
  obtain ⟨octets, hfind, hnone⟩ := h
  have hread : disk.read file = .ok octets := by rw [Disk.read, hfind]
  unfold load
  dsimp only
  rw [hfile, hread]
  dsimp only
  rw [hnone]

/-- A file with a text has the settings of the table that it writes, or none if it writes no
table. -/
theorem load_of_holds {text : String} (h : Holds disk file text) :
    load disk path folder = .ok ((Toml.parse text).map ofKnown) := by
  obtain ⟨octets, s, hfind, hs, rfl⟩ := h
  have hread : disk.read file = .ok octets := by rw [Disk.read, hfind]
  unfold load
  dsimp only
  rw [hfile, hread]
  dsimp only
  rw [hs]
  rfl

end

/-- There is no file, or one with a text, or one with something else. -/
theorem file_cases (disk : Disk) (file : String) :
    (disk.has file = false ∨ disk.isFolder file = true) ∨ (∃ text, Holds disk file text) ∨
      HoldsNoText disk file := by
  cases hfind : disk.find file with
  | error p => exact .inl (.inl (by rw [Disk.has, hfind]; rfl))
  | ok item =>
    cases item with
    | folder => exact .inl (.inr (by rw [Disk.isFolder, hfind]))
    | file octets =>
      cases hs : Text.decodeUtf8? octets with
      | none => exact .inr (.inr ⟨octets, hfind, hs⟩)
      | some s => exact .inr (.inl ⟨_, octets, s, hfind, hs, rfl⟩)

/-- Whatever is at the end of a path, it is no fault unless it is a file that is no text. -/
theorem exists_load {disk : Disk} {path folder file : String}
    (hfile : choose disk path folder = file) (h : ¬ HoldsNoText disk file) :
    ∃ found, load disk path folder = .ok found := by
  rcases file_cases disk file with hno | ⟨text, htext⟩ | hnoText
  · exact ⟨none, load_of_no_file hfile hno⟩
  · exact ⟨_, load_of_holds hfile htext⟩
  · exact absurd hnoText h

/-- **Settings are found where a text writes a table, and nowhere else.** They are those that the
table names, and the others as they are by default; names that no setting has make no difference.
Where there is no file, or where its text writes no table, there are no settings and that is no
fault. Only a file that is no text at all is one. -/
theorem load_found (disk : Disk) (path folder : String) :
    let inside := join folder defaultPath
    let file := if folder ≠ "" ∧ disk.has inside = true then inside else path
    (∀ fault, load disk path folder = .error fault ↔ fault = ⟨file⟩ ∧ HoldsNoText disk file) ∧
    (load disk path folder = .ok none ↔
      disk.has file = false ∨ disk.isFolder file = true ∨
        ∃ text, Holds disk file text ∧ Toml.parse text = none) ∧
    ∀ s, load disk path folder = .ok (some s) ↔
      ∃ text table, Holds disk file text ∧ Toml.parse text = some table ∧
        s.entries = ({} : Settings).entries.map fun e => (e.1, (lookup e.1 table).getD e.2) := by
  intro inside file
  have hfile : choose disk path folder = file := choose_eq disk path folder
  -- which of the three answers is had is decided by what is at the end of the path
  refine ⟨fun fault => ⟨fun h => ?_, ?_⟩, ⟨fun h => ?_, ?_⟩, fun s => ⟨fun h => ?_, ?_⟩⟩
  · rcases file_cases disk file with hno | ⟨text, htext⟩ | hnoText
    · exact nomatch h.symm.trans (load_of_no_file hfile hno)
    · exact nomatch h.symm.trans (load_of_holds hfile htext)
    · exact ⟨Except.error.inj (h.symm.trans (load_of_holdsNoText hfile hnoText)), hnoText⟩
  · rintro ⟨rfl, hnoText⟩
    exact load_of_holdsNoText hfile hnoText
  · rcases file_cases disk file with hno | ⟨text, htext⟩ | hnoText
    · exact hno.imp_right .inl
    · have hparse := Except.ok.inj (h.symm.trans (load_of_holds hfile htext))
      exact .inr (.inr ⟨text, htext, Option.map_eq_none_iff.1 hparse.symm⟩)
    · exact nomatch h.symm.trans (load_of_holdsNoText hfile hnoText)
  · rintro (hmissing | hfolder | ⟨text, htext, hparse⟩)
    · exact load_of_no_file hfile (.inl hmissing)
    · exact load_of_no_file hfile (.inr hfolder)
    · rw [load_of_holds hfile htext, hparse]
      rfl
  · rcases file_cases disk file with hno | ⟨text, htext⟩ | hnoText
    · exact nomatch h.symm.trans (load_of_no_file hfile hno)
    · have hparse := Except.ok.inj (h.symm.trans (load_of_holds hfile htext))
      obtain ⟨table, htable, rfl⟩ := Option.map_eq_some_iff.1 hparse.symm
      exact ⟨text, table, htext, htable, entries_ofKnown (Toml.named_parse htable)⟩
    · exact nomatch h.symm.trans (load_of_holdsNoText hfile hnoText)
  · rintro ⟨text, table, htext, htable, hentries⟩
    have hs : ofKnown table = s :=
      eq_of_entries ((entries_ofKnown (Toml.named_parse htable)).trans hentries.symm)
    rw [load_of_holds hfile htext, htable, Option.map_some, hs]

/-- A file of one octet that begins no character. -/
def spoiled : Disk :=
  Disk.ofFiles ["home"] [([defaultPath], [0xFF])]

/-- A file of settings with an octet that begins no character: reading it fails, where one would
expect to be told that there are no settings. -/
theorem not_load_total :
    ¬ ∀ (disk : Disk) (path folder : String), ∃ found, load disk path folder = .ok found := by
  intro h
  obtain ⟨found, hfound⟩ := h spoiled defaultPath ""
  have hload : load spoiled defaultPath "" = .error ⟨defaultPath⟩ :=
    load_of_holdsNoText rfl ⟨[0xFF], rfl, by decide +kernel⟩
  exact nomatch hfound.symm.trans hload

end ApiOutline.Settings
