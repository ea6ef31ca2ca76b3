/-
All or nothing.

A command that decodes goes through many hands: arguments are read, settings, the network or the
disk, a document, the document's outline, and last a file may be written. Any of them can fail. What
makes a failure harmless is the order. The outline is a finished text before anything is written
(`writes_of_outlineText`), and writing is one step, the last one, which either fails or is done
(`deliver_error`, `deliver_ok`). Folders that were made for a file which then could not be written
stay, but they are no files.

So there are two ways for a command to end. Either it returns, and then the text has gone where the
settings say, all of it and nowhere else (`Delivered`), or it does not, and then nothing was printed
and every file is as it was.
-/
import ApiOutline.Command.Run
import ApiOutline.Proofs.Files.Reading

set_option autoImplicit false

namespace ApiOutline.Command

open ApiOutline.Outcome (bind_eq_ok_iff map_eq_ok_iff mapError_eq_ok)

/-! ## Files -/

/-- Making room for a file makes folders, and no file is changed by that. -/
theorem files_makeRoom (disk : Files.Disk) (path : String) :
    (makeRoom disk path).1.files = disk.files := by
  unfold makeRoom
  dsimp only
  split
  · rfl
  · exact Files.Disk.files_makeFolders ..

/-- Disks with the same files have the same at every place. -/
theorem fileAt_of_files {before after : Files.Disk} (h : after.files = before.files)
    (place : List String) : after.fileAt place = before.fileAt place := by
  rw [Files.Disk.fileAt, Files.Disk.fileAt, h]

section WriteFile

variable {disk after : Files.Disk} {path text : String}

/-- **A file that could not be written has not been**: the problem comes up before anything is
written, and the folders that were made are no files. -/
theorem writeFile_error {f : Files.Fault} (h : writeFile disk path text = (after, .error f)) :
    after.files = disk.files := by
  have hroom := files_makeRoom disk path
  unfold writeFile at h
  split at h
  · next ready f' hready =>
    rw [hready] at hroom
    rw [← (Prod.mk.inj h).1]
    exact hroom
  · next ready hready =>
    rw [hready] at hroom
    split at h
    · rw [← (Prod.mk.inj h).1]
      exact hroom
    · exact nomatch (Prod.mk.inj h).2

/-- A file that was written reads as the text, and every other file is as it was. -/
theorem writeFile_ok (h : writeFile disk path text = (after, .ok ())) :
    after.read path = .ok (Text.encodeUtf8 text) ∧
      ∃ p place, after.locate path = .ok (p, place) ∧
        ∀ other, other ≠ place → after.fileAt other = disk.fileAt other := by
  have hroom := files_makeRoom disk path
  unfold writeFile at h
  split at h
  · exact nomatch (Prod.mk.inj h).2
  · next ready hready =>
    rw [hready] at hroom
    split at h
    · exact nomatch (Prod.mk.inj h).2
    · next written hwritten =>
      rw [← (Prod.mk.inj h).1]
      -- room was made before, and that changed no file
      obtain ⟨hread, p, place, hlocate, hothers⟩ := Files.Disk.read_write hwritten
      refine ⟨hread, p, place, hlocate, fun other hother => ?_⟩
      rw [hothers other hother, fileAt_of_files hroom]

end WriteFile

/-! ## Where the text goes -/

/-- Where a text has gone: to the output, and the disk is as it was, or to the file that was named,
and the output is empty and every other file is as it was. -/
inductive Delivered (before after : Files.Disk) (output : Value) (text stdout : String) : Prop where
  | printed (houtput : output.truthy = false) (hafter : after = before) (hstdout : stdout = text)
  | saved {path : String} {p : Files.Path} {place : List String} (houtput : output = .str path)
      (hpath : path ≠ "") (hstdout : stdout = "")
      (hread : after.read path = .ok (Text.encodeUtf8 text))
      (hplace : after.locate path = .ok (p, place))
      (hothers : ∀ other, other ≠ place → after.fileAt other = before.fileAt other)

section Deliver

variable {disk after : Files.Disk} {output : Value} {text : String}

/-- A delivery that fails leaves all files as they were, for it fails where the file is written or
before. -/
theorem deliver_error {f : Fault} (h : deliver disk output text = (after, .error f)) :
    after.files = disk.files := by
  unfold deliver at h
  by_cases houtput : output.truthy = true
  · rw [if_pos houtput] at h
    split at h
    · next path =>
      generalize hwrite : writeFile disk path text = r at h
      obtain ⟨written, result⟩ := r
      cases result with
      | error f' =>
        obtain rfl := (Prod.mk.inj h).1
        exact writeFile_error hwrite
      | ok done => exact nomatch (Prod.mk.inj h).2
    · rw [← (Prod.mk.inj h).1]
  · rw [if_neg houtput] at h
    exact nomatch (Prod.mk.inj h).2

/-- A delivery that succeeds has brought the text where the settings say: into a file if they name
an output, and then nothing is printed, or else it is printed, and then no file is touched. -/
theorem deliver_ok {stdout : String} {last : List Message}
    (h : deliver disk output text = (after, .ok (stdout, last))) :
    Delivered disk after output text stdout := by
  unfold deliver at h
  by_cases houtput : output.truthy = true
  · rw [if_pos houtput] at h
    split at h
    · next path =>
      generalize hwrite : writeFile disk path text = r at h
      obtain ⟨written, result⟩ := r
      cases result with
      | error f => exact nomatch (Prod.mk.inj h).2
      | ok done =>
        obtain ⟨rfl, hdone⟩ := Prod.mk.inj h
        have hstdout : stdout = "" := (Prod.mk.inj (Except.ok.inj hdone)).1.symm
        obtain ⟨hread, p, place, hplace, hothers⟩ := writeFile_ok hwrite
        exact .saved rfl (bne_iff_ne.1 houtput) hstdout hread hplace hothers
    · exact nomatch (Prod.mk.inj h).2
  · rw [if_neg houtput] at h
    obtain ⟨rfl, hdone⟩ := Prod.mk.inj h
    have hstdout : stdout = text := (Prod.mk.inj (Except.ok.inj hdone)).1.symm
    exact .printed (Bool.not_eq_true _ ▸ houtput) rfl hstdout

end Deliver

/-! ## The text -/

/-- The text that settings ask for: the description that they name is loaded, the outline of it with
their options is made, and this is how it is written. -/
def Writes (disk : Files.Disk) (network : Web.Network) (s : Settings) (text : String) : Prop :=
  ∃ spec summary form, (load disk network s.spec).2 = .ok spec ∧
    (decode spec s.options).outcome = .ok summary ∧ summary.form = .ok form ∧
    text = Json.text form ++ "\n"

/-- An outline that can be written comes of an outline. -/
theorem outlineOf_eq_ok {spec : Value} {o : Options} {form : Value}
    (h : (outlineOf spec o).outcome = .ok form) :
    ∃ summary, (decode spec o).outcome = .ok summary ∧ summary.form = .ok form := by
  simp only [outlineOf, Trace.outcome_bind, Trace.outcome_liftM, bind_eq_ok_iff] at h
  obtain ⟨summary, hsummary, form', hform, -, -, hsame⟩ := h
  obtain rfl := Except.ok.inj hsame
  exact ⟨summary, hsummary, hform⟩

/-- The text of an outline is there only if the description was loaded, decoded and could be
written. -/
theorem writes_of_outlineText {disk : Files.Disk} {network : Web.Network} {s : Settings}
    {told : List Message} {text : String} (h : outlineText disk network s = (told, .ok text)) :
    Writes disk network s text := by
  unfold outlineText at h
  generalize hload : load disk network s.spec = loaded at h
  obtain ⟨asked, loaded⟩ := loaded
  cases hlocation : s.spec.checkText with
  | error f =>
    rw [hlocation] at h
    exact nomatch (Prod.mk.inj h).2
  | ok told =>
    rw [hlocation] at h
    cases loaded with
    | error f => exact nomatch (Prod.mk.inj h).2
    | ok spec =>
      obtain ⟨form, hform, htext⟩ := map_eq_ok_iff.1 (mapError_eq_ok (Prod.mk.inj h).2)
      obtain ⟨summary, hsummary, hform⟩ := outlineOf_eq_ok hform
      exact ⟨spec, summary, form, by rw [hload], hsummary, hform, htext.symm⟩

/-! ## The command -/

/-- A command has failed and left nothing behind: it did not return, its status tells so, nothing
was printed and all files are as they were. -/
structure Failed (disk : Files.Disk) (r : Outcome) : Prop where
  returned : r.ending ≠ .returned
  status : r.ending ≠ .exited 0
  stdout : r.stdout = ""
  files : r.disk.files = disk.files

/-- A failure that is reported and one that is not both end the command, without a text in the
output. -/
theorem failed_failure {disk after : Files.Disk} (h : after.files = disk.files) (verbose : Bool)
    (told : List Message) (f : Fault) : Failed disk (failure after verbose told f) := by
  unfold failure
  by_cases hreported : f.isReported = true
  · rw [if_pos hreported]
    exact ⟨fun h => (nomatch h), fun h => (nomatch h), rfl, h⟩
  · rw [if_neg hreported]
    exact ⟨fun h => (nomatch h), fun h => (nomatch h), rfl, h⟩

/-- Settings without an output have the text printed that they ask for. -/
theorem stdout_of_outlineText {disk : Files.Disk} {network : Web.Network} {s : Settings}
    {more : List Message} {text : String} (hspec : s.spec.truthy = true)
    (houtput : s.output.truthy = false) (h : outlineText disk network s = (more, .ok text))
    (verbose : Bool) (told : List Message) :
    (decodeWith disk network verbose s told).stdout = text := by
  have hdeliver : deliver disk s.output text = (disk, .ok (text, [])) := by
    unfold deliver
    rw [if_neg (by rw [houtput]; exact Bool.false_ne_true)]
  rw [decodeWith, if_pos hspec, h]
  dsimp only
  rw [hdeliver]

/-- How a command may end that has its settings: it failed, or it returned with the text delivered
that they ask for, which is the one that would have been printed without an output. -/
inductive DoneOrNot (disk : Files.Disk) (network : Web.Network) (verbose : Bool) (s : Settings)
    (r : Outcome) : Prop where
  | failed (h : Failed disk r)
  | done {text : String} (hending : r.ending = .returned) (hwrites : Writes disk network s text)
      (hprinted : ∀ told,
        (decodeWith disk network verbose { s with output := .null } told).stdout = text)
      (hdelivered : Delivered disk r.disk s.output text r.stdout)

/-- **A command with its settings fails or is done.** The cases follow its steps: no description
named, no text, no delivery, and at last the text delivered. -/
theorem doneOrNot_decodeWith (disk : Files.Disk) (network : Web.Network) (verbose : Bool)
    (s : Settings) (told : List Message) :
    DoneOrNot disk network verbose s (decodeWith disk network verbose s told) := by
  unfold decodeWith
  by_cases hspec : s.spec.truthy = true
  · rw [if_pos hspec]
    generalize houtline : outlineText disk network s = outline
    obtain ⟨more, text⟩ := outline
    cases text with
    | error f => exact .failed (failed_failure rfl verbose _ f)
    | ok text =>
      have hprinted : ∀ told,
          (decodeWith disk network verbose { s with output := .null } told).stdout = text :=
        -- which description is decoded, and how, does not depend on the output
        stdout_of_outlineText (s := { s with output := .null }) hspec rfl houtline verbose
      dsimp only
      generalize hdeliver : deliver disk s.output text = delivered
      obtain ⟨after, result⟩ := delivered
      cases result with
      | error f => exact .failed (failed_failure (deliver_error hdeliver) verbose _ f)
      | ok done =>
        obtain ⟨stdout, last⟩ := done
        exact .done rfl (writes_of_outlineText houtline) hprinted (deliver_ok hdeliver)
  · rw [if_neg hspec]
    exact .failed ⟨fun h => (nomatch h), fun h => (nomatch h), rfl, rfl⟩

/-- The settings of a command are those in the file with what was given on top. -/
theorem settingsOf_eq_ok {disk : Files.Disk} {path : String} {a : Arguments} {s : Settings}
    {told : List Message} (h : settingsOf disk path a = .ok (s, told)) :
    ∃ stored, Settings.load disk path "" = .ok stored ∧
      s = Settings.merge a.given (stored.getD {}) := by
  unfold settingsOf at h
  split at h
  · exact nomatch h
  · next stored hload => exact ⟨some stored, hload, (Prod.mk.inj (Except.ok.inj h)).1.symm⟩
  · next hload => exact ⟨none, hload, (Prod.mk.inj (Except.ok.inj h)).1.symm⟩

/-- What a command that is to decode leaves behind: it has failed and left nothing, or it returned,
and then the text that the settings ask for is where it belongs. The settings are those in the
file with what was given on top. -/
structure AllOrNothing (disk : Files.Disk) (network : Web.Network) (arguments : List String)
    (r : Outcome) : Prop where
  nothing : r.ending ≠ .returned → Failed disk r
  all : r.ending = .returned →
    ∃ (a : Arguments) (path : String) (stored : Option Settings) (s : Settings) (text : String),
      parse arguments = .ok (.run a) ∧ a.config = some path ∧
      Settings.load disk path "" = .ok stored ∧ s = Settings.merge a.given (stored.getD {}) ∧
      Writes disk network s text ∧ Delivered disk r.disk s.output text r.stdout ∧
      ∀ told, (decodeWith disk network a.verbose { s with output := .null } told).stdout = text

/-- A command that failed has done nothing, whatever it was asked for. -/
theorem Failed.allOrNothing {disk : Files.Disk} {r : Outcome} (h : Failed disk r)
    (network : Web.Network) (arguments : List String) : AllOrNothing disk network arguments r :=
  ⟨fun _ => h, fun hreturned => absurd hreturned h.returned⟩

/-- **A command that decodes does all of what it was asked for, or nothing.** If it returns, the
text of the outline is on standard output or in the file that was named, the same text in both
cases, and no other file is changed. If it does not, nothing is on standard output and no file is
changed at all. On every disk and network, and for all arguments that ask for decoding. -/
theorem run_allOrNothing (disk : Files.Disk) (network : Web.Network) {arguments : List String}
    (hhelp : parse arguments ≠ .ok .help)
    (hinit : ∀ a, parse arguments = .ok (.run a) → a.initConfig = false) :
    AllOrNothing disk network arguments (run disk network arguments) := by
  unfold run
  cases hparse : parse arguments with
  | error m =>
    -- arguments that are not understood end a command before it has begun
    have hmisuse : ∀ stderr, Failed disk ⟨.exited 2, "", stderr, disk⟩ := fun _ =>
      ⟨fun h => (nomatch h), fun h => (nomatch h), rfl, rfl⟩
    exact (hmisuse _).allOrNothing network arguments
  | ok request =>
    -- a problem with the settings is not caught, and ends the command as well
    have hbroken : ∀ f, Failed disk ⟨.broken f, "", "", disk⟩ := fun f =>
      ⟨fun h => (nomatch h), fun h => (nomatch h), rfl, rfl⟩
    cases request with
    | help => exact absurd hparse hhelp
    | run a =>
      dsimp only [carryOut]
      cases hconfig : a.config with
      | none => exact (hbroken .noPath).allOrNothing network arguments
      | some path =>
        dsimp only
        rw [if_neg (by rw [hinit a hparse]; exact Bool.false_ne_true)]
        cases hsettings : settingsOf disk path a with
        | error f => exact (hbroken f).allOrNothing network arguments
        | ok found =>
          obtain ⟨s, told⟩ := found
          dsimp only
          cases doneOrNot_decodeWith disk network a.verbose s told with
          | failed hfailed => exact hfailed.allOrNothing network arguments
          | done hending hwrites hprinted hdelivered =>
            obtain ⟨stored, hload, hs⟩ := settingsOf_eq_ok hsettings
            refine ⟨fun h => absurd hending h, fun _ => ?_⟩
            exact ⟨a, path, stored, s, _, hparse, hconfig, hload, hs, hwrites, hdelivered, hprinted⟩

/-! ### A run that saves -/

/-- A folder with a description in it. -/
def shelf : Files.Disk :=
  .ofFiles ["shelf"]
    [(["spec.json"], "\x7b\"swagger\":\"2.0\",\"info\":\x7b\x7d\x7d".toUTF8.toList)]

/-- Asks for an outline in a folder that is not there yet. -/
def savingArguments : List String := ["--spec", "spec.json", "--output", "out/outline.json"]

/-- Did a command return? -/
def Ending.isReturned : Ending → Bool
  | .returned => true
  | _ => false

/-- A run that saves into a new folder returns, so it is one of those that do all of it. -/
theorem run_allOrNothing_saving :
    parse savingArguments ≠ .ok .help ∧
      (run shelf [] savingArguments).ending.isReturned = true ∧
      AllOrNothing shelf [] savingArguments (run shelf [] savingArguments) := by
  have hparse : parse savingArguments = .ok (.run
      { given := { spec := .str "spec.json", output := .str "out/outline.json" } }) := by rfl
  have hhelp : parse savingArguments ≠ .ok .help := by
    rw [hparse]
    exact fun h => nomatch h
  refine ⟨hhelp, by decide +kernel, ?_⟩
  refine run_allOrNothing shelf [] hhelp fun a ha => ?_
  rw [hparse] at ha
  rw [← Request.run.inj (Except.ok.inj ha)]

end ApiOutline.Command
