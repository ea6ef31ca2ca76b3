/-
Saved settings are settings.

Settings can be given on the command line, or they can be saved first and taken from the file by
the next run. Two things have to be the same then. The settings have to be: what was saved is what
is read, to the last null (`Settings.load_save`), and with nothing given on top of it it stays as
it is. And the disk has to be, although there is one more file on it: the one with the settings.
Description and output are looked for on a disk with that file and on a disk without it, and neither
of them leads there, so that nothing on the way from the one to the other can tell
(`decodeWith_matches`).

A path of settings that looks like an option is none. Then there is nothing saved and nothing
decoded, whichever way is taken (`misuse_of_config`).
-/
import ApiOutline.Proofs.Command.Delivery
import ApiOutline.Proofs.Command.Given
import ApiOutline.Proofs.Files.Apart

set_option autoImplicit false

namespace ApiOutline.Command

open Files (Disk)
open Files.Disk (Apart After)
open Files.Path (Avoids)

/-! ## Disks that differ in the file with the settings -/

/-- Making room for a file does not change where relative paths start. -/
theorem here_makeRoom (disk : Disk) (path : String) : (makeRoom disk path).1.here = disk.here := by
  unfold makeRoom
  dsimp only
  split
  · rfl
  · exact Files.Disk.here_makeFolders ..

/-- A value that is a path avoids a place. -/
def ValueAvoids (here place : List String) (v : Value) : Prop :=
  ∀ path, v = .str path → Avoids here place path

section Apart

variable {place : List String} {d e : Disk} (h : Apart place d e)

include h

/-- Room is made on both disks, and they stay as far apart. -/
theorem after_makeRoom {path : String} (havoids : Avoids d.here place path) :
    After place (makeRoom d path) (makeRoom e path) := by
  unfold makeRoom
  dsimp only
  split
  · exact ⟨h, rfl⟩
  · exact h.makeFolders havoids.split _

/-- **A file is written on both disks, or on neither for the same reason.** The room comes first,
and then the file itself, each along a path that avoids the place. -/
theorem after_writeFile {path : String} (havoids : Avoids d.here place path) (text : String) :
    After place (writeFile d path text) (writeFile e path text) := by
  have hroom := after_makeRoom h havoids
  have hhere := here_makeRoom d path
  unfold writeFile
  generalize makeRoom d path = room at hroom hhere
  generalize makeRoom e path = room' at hroom
  obtain ⟨ready, problem⟩ := room
  obtain ⟨ready', problem'⟩ := room'
  obtain ⟨hready, rfl : problem' = problem⟩ := hroom
  -- the same was said about the room on both sides
  cases problem' with
  | some f => exact ⟨hready, rfl⟩
  | none =>
    have hwrite := hready.write (hhere ▸ havoids) (Text.encodeUtf8 text)
    dsimp only [Files.Disk.writeText]
    generalize ready.write path (Text.encodeUtf8 text) = r at hwrite
    generalize ready'.write path (Text.encodeUtf8 text) = r' at hwrite
    cases r with
    | error f =>
      cases r' with
      | error f' =>
        obtain rfl : f = f' := hwrite
        exact ⟨hready, rfl⟩
      | ok written' => exact hwrite.elim
    | ok written =>
      cases r' with
      | error f' => exact hwrite.elim
      | ok written' => exact ⟨hwrite, rfl⟩

/-- The same goes to the output, or to the same file. If the path is one that avoids the place,
what is said about the file is the same as well. -/
theorem after_deliver {output : Value} (havoids : ValueAvoids d.here place output) (text : String) :
    After place (deliver d output text) (deliver e output text) := by
  unfold deliver
  split
  · split
    · next path _ =>
      have hwrite := after_writeFile h (havoids path rfl) text
      have hfull : e.fullPath path = d.fullPath path := by
        rw [Files.Disk.fullPath, Files.Disk.fullPath, h.here]
      generalize writeFile d path text = r at hwrite
      generalize writeFile e path text = r' at hwrite
      obtain ⟨written, result⟩ := r
      obtain ⟨written', result'⟩ := r'
      obtain ⟨hwritten, rfl : result' = result⟩ := hwrite
      exact ⟨hwritten, by dsimp only; rw [hfull]⟩
    · exact ⟨h, rfl⟩
  · exact ⟨h, rfl⟩

/-- The same description is found, or the same is told about why there is none. -/
theorem load_eq (network : Web.Network) {spec : Value}
    (havoids : ∀ path, spec = .str path → Loading.isAddress path = false →
      Avoids d.here place path) : load e network spec = load d network spec := by
  unfold load
  split
  · next path =>
    have hread : Loading.readText e network path = Loading.readText d network path := by
      unfold Loading.readText
      split
      · rfl
      · next haddress =>
        have hpath := havoids path rfl (Bool.not_eq_true _ ▸ haddress)
        rw [h.has_eq hpath, Loading.readFile, Loading.readFile, h.read_eq hpath]
    rw [hread]
  · rfl

end Apart

/-! ## Commands that do the same -/

/-- Two commands have ended the same way and printed the same, and what they leave differs in one
file at most. -/
structure Matches (place : List String) (r r' : Outcome) : Prop where
  ending : r'.ending = r.ending
  stdout : r'.stdout = r.stdout
  disk : Apart place r.disk r'.disk

/-- Two commands that fail with the same fault end the same way, whatever they have told before
and however much they tell. -/
theorem matches_failure {place : List String} {d e : Disk} (h : Apart place d e)
    (verbose verbose' : Bool) (told told' : List Message) (f : Fault) :
    Matches place (failure d verbose told f) (failure e verbose' told' f) := by
  unfold failure
  split
  · exact ⟨rfl, rfl, h⟩
  · exact ⟨rfl, rfl, h⟩

/-- **Decoding does the same on both disks**, if neither the description nor the output leads to
the place where they differ. -/
theorem decodeWith_matches {place : List String} {d e : Disk} (h : Apart place d e)
    (network : Web.Network) {s : Settings}
    (hspec : ∀ path, s.spec = .str path → Loading.isAddress path = false →
      Avoids d.here place path)
    (houtput : ValueAvoids d.here place s.output) (verbose verbose' : Bool)
    (told told' : List Message) :
    Matches place (decodeWith d network verbose s told)
      (decodeWith e network verbose' s told') := by
  -- the description is asked for first, and it does not lie at the place
  have houtline : outlineText e network s = outlineText d network s := by
    rw [outlineText, outlineText, load_eq h network hspec]
  unfold decodeWith
  rw [houtline]
  split
  · generalize outlineText d network s = outline
    obtain ⟨more, text⟩ := outline
    cases text with
    | error f => exact matches_failure h ..
    | ok text =>
      have hdeliver := after_deliver h houtput text
      dsimp only
      generalize deliver d s.output text = r at hdeliver
      generalize deliver e s.output text = r' at hdeliver
      obtain ⟨after, result⟩ := r
      obtain ⟨after', result'⟩ := r'
      obtain ⟨hafter, rfl : result' = result⟩ := hdeliver
      cases result' with
      | error f => exact matches_failure hafter ..
      | ok done => exact ⟨rfl, rfl, hafter⟩
  · exact ⟨rfl, rfl, h⟩

/-! ## A new file -/

/-- A path names a file that is not there yet, in a folder that is. -/
structure NamesNew (disk : Disk) (path : String) (place : List String) : Prop where
  leads : ∃ p, disk.locate path = .ok (p, place) ∧ p.toFolder = false
  free : disk.at? place = none

namespace NamesNew

variable {disk : Disk} {path : String} {place : List String} (h : NamesNew disk path place)

include h

/-- Settings are saved in a file that is new, and no other file is touched. -/
theorem exists_save (s : Settings) :
    ∃ kept, Settings.save disk path s = .ok kept ∧ Apart place disk kept := by
  obtain ⟨p, hlocate, htoFolder⟩ := h.leads
  have hfolder : disk.hasFolder place = false := by
    have hfree := h.free
    unfold Files.Disk.at? at hfree
    split at hfree
    · exact nomatch hfree
    · next hfolder => exact Bool.not_eq_true _ ▸ hfolder
  have hdotted : p.dotted = false :=
    Files.Path.dotted_of_not_toFolder (Files.Disk.locate_eq_ok_iff.1 hlocate).2.2.1 htoFolder
  refine ⟨_, Files.Disk.write_eq_ok_iff.2 ⟨p, place, hlocate, hfolder, hdotted, htoFolder, rfl⟩,
    rfl, rfl, fun other hother => ?_⟩
  rw [Files.Disk.fileAt, Files.Disk.lookup_replace, if_neg hother]
  rfl

/-- There are no settings in a file that is not there. -/
theorem load_eq_none : Settings.load disk path "" = .ok none := by
  obtain ⟨p, hlocate, -⟩ := h.leads
  have hread : disk.read path = .error ⟨.missing, path⟩ := by
    have hfind : disk.find path = .error .missing := by
      rw [Files.Disk.find, hlocate, Outcome.ok_bind]
      dsimp only
      rw [h.free]
    rw [Files.Disk.read, hfind]
  have hchoose : Settings.choose disk path "" = path := rfl
  unfold Settings.load
  dsimp only
  rw [hchoose, hread]

end NamesNew

/-! ## Arguments in vain -/

/-- Arguments that are not understood leave the disk as it is, with nothing in the output. -/
theorem run_of_misuse (disk : Disk) (network : Web.Network) {arguments : List String} {m : Misuse}
    (h : parse arguments = .error m) :
    (run disk network arguments).ending = .exited 2 ∧ (run disk network arguments).stdout = "" ∧
      (run disk network arguments).disk = disk := by
  rw [run, h]
  exact ⟨rfl, rfl, rfl⟩

/-- The wish for a file of settings does not help with a path that is none. -/
theorem exists_misuse_initConfig {c : String} (hc : classify c ≠ .ok .plain) (rest : List String) :
    ∃ m, parse ("--init-config" :: "--config" :: c :: rest) = .error m := by
  have hswitch : classify "--init-config" = .ok (.flag .initConfig none) := rfl
  obtain ⟨m, hm⟩ := misuse_of_config hc ({ initConfig := true } : Arguments) rest
  rw [parse, classifyAll_cons (by decide), hswitch]
  cases hrest : classifyAll ("--config" :: c :: rest) with
  | error m => exact ⟨m, rfl⟩
  | ok words =>
    rw [hrest] at hm
    exact ⟨m, (read_switch rfl (by decide) {} [] "--init-config" words).trans hm⟩

/-! ## Saving and giving -/

/-- The settings that options make, on top of those by default. -/
def effective (gs : List Given) : Settings := Settings.merge (Given.settings gs) {}

/-- What is a text when it may give way to null is that text itself. -/
theorem eq_str_of_orElse_null {v : Value} {s : String} (h : v.orElse .null = .str s) :
    v = .str s := by
  unfold Value.orElse at h
  split at h
  · exact h
  · exact nomatch h

section Saved

variable {disk : Disk} {place : List String} {c : String} (gs : List Given)

/-- What a run that saves leaves is what saving leaves. -/
theorem disk_createSettings {a : Arguments} {kept : Disk}
    (h : Settings.save disk c (Settings.merge a.given {}) = .ok kept) :
    (createSettings disk c a).disk = kept := by
  rw [createSettings, h]

/-- A run that saves leaves the settings in the file. They are those that were given over the
defaults, and the file is all that the disk is changed by. -/
theorem run_saves (network : Web.Network) (hc : classify c = .ok .plain)
    (hnew : NamesNew disk c place) :
    Apart place disk (run disk network (["--init-config", "--config", c] ++
        gs.flatMap Given.words)).disk ∧
      Settings.load (run disk network (["--init-config", "--config", c] ++
        gs.flatMap Given.words)).disk c "" = .ok (some (effective gs)) := by
  obtain ⟨kept, hsave, hapart⟩ := hnew.exists_save (effective gs)
  have hrun : (run disk network (["--init-config", "--config", c] ++
      gs.flatMap Given.words)).disk = kept := by
    rw [run, parse_initConfig hc]
    dsimp only [carryOut]
    rw [if_pos rfl]
    exact disk_createSettings hsave
  have hwellTyped : (effective gs).WellTyped :=
    (Given.wellTyped_settings gs).merge Settings.wellTyped_default
  rw [hrun]
  exact ⟨hapart, Settings.load_save hwellTyped hsave⟩

/-- A run with settings in the file decodes with them. Nothing else is given, so nothing is put
over them. -/
theorem run_of_kept (network : Web.Network) (hc : classify c = .ok .plain) {s : Settings}
    (hload : Settings.load disk c "" = .ok (some s)) :
    run disk network ["--config", c] = decodeWith disk network false s [.using c] := by
  have hparse := parse_config hc []
  rw [List.flatMap_nil, List.append_nil] at hparse
  rw [run, hparse]
  dsimp only [carryOut]
  rw [if_neg (by decide), settingsOf]
  dsimp only
  rw [hload]
  dsimp only
  rw [Given.settings, List.foldl_nil, Settings.merge_nothing]

/-- A run without settings in the file decodes with those that are given. -/
theorem run_of_given (network : Web.Network) (hc : classify c = .ok .plain)
    (hload : Settings.load disk c "" = .ok none) :
    run disk network (["--config", c] ++ gs.flatMap Given.words) =
      decodeWith disk network false (effective gs) [] := by
  rw [run, parse_config hc]
  dsimp only [carryOut]
  rw [if_neg (by decide), settingsOf]
  dsimp only
  rw [hload]
  rfl

end Saved

/-- **Settings that were saved first do what they do when they are given.** Two runs, one that
saves and one that takes the settings from the file, come to what a single run comes to: they end
alike, write the same to standard output and leave the same files, except for the new file of
settings. A path of settings that is there already, or that the description or the output lead to,
is another matter. -/
theorem run_saved (disk : Disk) (network : Web.Network) {c : String} {place : List String}
    {gs : List Given} (hnew : NamesNew disk c place)
    (hspec : ∀ path, (Given.settings gs).spec = .str path → Loading.isAddress path = false →
      Avoids disk.here place path)
    (houtput : ValueAvoids disk.here place (Given.settings gs).output) :
    let first := run disk network (["--init-config", "--config", c] ++ gs.flatMap Given.words)
    let second := run first.disk network ["--config", c]
    let single := run disk network (["--config", c] ++ gs.flatMap Given.words)
    second.ending = single.ending ∧ second.stdout = single.stdout ∧
      ∀ other, other ≠ place → second.disk.at? other = single.disk.at? other := by
  intro first second single
  by_cases hc : classify c = .ok .plain
  -- the path is one, so both ways come to decoding with the same settings
  · obtain ⟨hapart, hload⟩ := run_saves gs network hc hnew
    have hsecond : second = decodeWith first.disk network false (effective gs) [.using c] :=
      run_of_kept network hc hload
    have hsingle : single = decodeWith disk network false (effective gs) [] :=
      run_of_given gs network hc hnew.load_eq_none
    have hmatches := decodeWith_matches (s := effective gs) hapart network
      (fun path h => hspec path (eq_str_of_orElse_null h))
      (fun path h => houtput path (eq_str_of_orElse_null h)) false false [] [.using c]
    rw [← hsecond, ← hsingle] at hmatches
    exact ⟨hmatches.ending, hmatches.stdout, fun other hother => hmatches.disk.at_eq hother⟩
  · -- neither run gets as far as the settings
    obtain ⟨m, hm⟩ := exists_misuse_initConfig hc (gs.flatMap Given.words)
    obtain ⟨m', hm'⟩ := misuse_of_config hc {} (gs.flatMap Given.words)
    obtain ⟨m'', hm''⟩ := misuse_of_config hc {} []
    obtain ⟨-, -, hfirst⟩ := run_of_misuse disk network hm
    obtain ⟨hending, hstdout, hsingle⟩ := run_of_misuse disk network hm'
    obtain ⟨hending', hstdout', hsecond⟩ := run_of_misuse first.disk network hm''
    have hdisk : second.disk = single.disk := hsecond.trans (hfirst.trans hsingle.symm)
    refine ⟨hending'.trans hending.symm, hstdout'.trans hstdout.symm, fun other _ => ?_⟩
    rw [hdisk]

/-! ### A run that saves and one that decodes -/

/-- Options for the description on the shelf. -/
def shelfOptions : List Given :=
  [.joined .spec "spec.json", .apart .output "out/outline.json" rfl,
    .joined .host "\x22books\x22.example.org", .strictRefs]

/-- Options of every kind, saved and then taken from the file, write the outline that they write
when they are given. -/
theorem run_saved_shelf :
    let place := ["shelf", "kept.toml"]
    NamesNew shelf "kept.toml" place ∧
      (∀ path, (Given.settings shelfOptions).spec = .str path → Loading.isAddress path = false →
        Avoids shelf.here place path) ∧
      ValueAvoids shelf.here place (Given.settings shelfOptions).output ∧
      let first := run shelf [] (["--init-config", "--config", "kept.toml"] ++
        shelfOptions.flatMap Given.words)
      let second := run first.disk [] ["--config", "kept.toml"]
      let single := run shelf [] (["--config", "kept.toml"] ++ shelfOptions.flatMap Given.words)
      single.ending.isReturned = true ∧
      second.ending = single.ending ∧ second.stdout = single.stdout ∧
        ∀ other, other ≠ place → second.disk.at? other = single.disk.at? other := by
  intro place
  have hnew : NamesNew shelf "kept.toml" place := ⟨⟨_, rfl, rfl⟩, rfl⟩
  have hspec : ∀ path, (Given.settings shelfOptions).spec = .str path →
      Loading.isAddress path = false → Avoids shelf.here place path := by
    intro path hpath _
    obtain rfl : "spec.json" = path := Scalar.str.inj (Value.scalar.inj hpath)
    decide
  have houtput : ValueAvoids shelf.here place (Given.settings shelfOptions).output := by
    intro path hpath
    obtain rfl : "out/outline.json" = path := Scalar.str.inj (Value.scalar.inj hpath)
    decide
  exact ⟨hnew, hspec, houtput, by decide +kernel, run_saved shelf [] hnew hspec houtput⟩

end ApiOutline.Command
