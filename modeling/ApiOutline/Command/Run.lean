/-
Carrying out a command.

A command either writes a file of settings or decodes a description. Settings are what stands in
the file, with what was given on top. The outline is finished as a text before anything is
written, so that a command that fails leaves every file as it was, and the text goes either to the
output or to a file, the same text.
-/
import ApiOutline.Command.Arguments
import ApiOutline.Command.Message
import ApiOutline.Json.Writer
import ApiOutline.Outline.Form

set_option autoImplicit false

namespace ApiOutline.Command

/-- How a command ended. -/
inductive Ending where
  | returned
  /-- It was given up with a status. -/
  | exited (status : Nat)
  /-- It broke off with a fault that was not reported. -/
  | broken (fault : Fault)

/-- What a command leaves behind. -/
structure Outcome where
  ending : Ending
  stdout : String
  stderr : String
  disk : Files.Disk

/-! ## The outline as a text -/

/-- The outline of a description as a value, if it can be written. Integers of too many digits may
have been handed on to it. -/
def outlineOf (spec : Value) (o : Options) : Trace Value := do
  let summary ← decode spec o
  let form ← summary.form
  form.checkText
  return form

/-- What was told on the way to the outline that the settings ask for, and the text of that
outline. A location that cannot be written cannot be told either. -/
def outlineText (disk : Files.Disk) (network : Web.Network) (s : Settings) :
    List Message × Except Fault String :=
  match s.spec.checkText with
  | .error f => ([], .error (.location f))
  | .ok () =>
    let (asked, loaded) := load disk network s.spec
    let told := .loading s.spec :: asked.map .asked
    match loaded with
    | .error f => (told, .error (.loading f))
    | .ok spec =>
      let run := outlineOf spec s.options
      (told ++ .decoding :: run.notices.map .noticed,
        (run.outcome.map fun v => Json.text v ++ "\n").mapError .decoding)

/-! ## Where it goes -/

/-- The disk with the folders on the way to a file, or why there can be none. -/
def makeRoom (disk : Files.Disk) (path : String) : Files.Disk × Option Files.Fault :=
  let folder := Files.Path.parent path
  if folder == "" then (disk, none) else disk.makeFolders folder.toList.length folder

/-- The disk with a text in a file, and with the folders on the way there. Those stay if the file
cannot be written. -/
def writeFile (disk : Files.Disk) (path text : String) :
    Files.Disk × Except Files.Fault Unit :=
  match makeRoom disk path with
  | (ready, some f) => (ready, .error f)
  | (ready, none) =>
    match ready.writeText path text with
    | .error f => (ready, .error f)
    | .ok written => (written, .ok ())

/-- What is left behind when a text goes where the settings say, as in `_write_output`: to the
output, unless they name a file. -/
def deliver (disk : Files.Disk) (output : Value) (text : String) :
    Files.Disk × Except Fault (String × List Message) :=
  if output.truthy then
    match output with
    | .scalar (.str path) =>
      let (after, result) := writeFile disk path text
      (after, (result.map fun _ => ("", [.saved (disk.fullPath path)])).mapError .file)
    | _ => (disk, .error .noPath)
  else (disk, .ok (text, []))

/-! ## Commands -/

/-- The outcome of a command that failed after something was told. -/
def failure (disk : Files.Disk) (verbose : Bool) (told : List Message) (f : Fault) : Outcome :=
  if f.isReported then ⟨.exited 1, "", Message.lines verbose (told ++ [.failed f]), disk⟩
  else ⟨.broken f, "", Message.lines verbose told, disk⟩

/-- Writes a file of settings, as `main` does when it is asked to create one. -/
def createSettings (disk : Files.Disk) (path : String) (a : Arguments) : Outcome :=
  match Settings.save disk path (Settings.merge a.given {}) with
  | .ok disk => ⟨.returned, "", Message.lines a.verbose [.created path], disk⟩
  | .error f => ⟨.broken (.file f), "", "", disk⟩

/-- The settings in a file with those that are given on top, and what is told about the file. -/
def settingsOf (disk : Files.Disk) (path : String) (a : Arguments) :
    Except Fault (Settings × List Message) :=
  match Settings.load disk path "" with
  | .error f => .error (.settings f)
  | .ok (some s) => .ok (Settings.merge a.given s, [.using path])
  | .ok none => .ok (Settings.merge a.given {}, [])

/-- Decodes what the settings ask for: what `main` does once the settings are known, with its
report on what went wrong. -/
def decodeWith (disk : Files.Disk) (network : Web.Network) (verbose : Bool) (s : Settings)
    (told : List Message) : Outcome :=
  if s.spec.truthy then
    let (more, text) := outlineText disk network s
    let told := told ++ more
    match text with
    | .error f => failure disk verbose told f
    | .ok text =>
      match deliver disk s.output text with
      | (disk, .error f) => failure disk verbose told f
      | (disk, .ok (stdout, last)) =>
        ⟨.returned, stdout, Message.lines verbose (told ++ last), disk⟩
  else ⟨.exited 1, "", Message.lines verbose (told ++ [.noSpec]), disk⟩

/-- Carries out a request. -/
def carryOut (disk : Files.Disk) (network : Web.Network) : Request → Outcome
  | .help => ⟨.exited 0, helpText, "", disk⟩
  | .run a =>
    match a.config with
    | none => ⟨.broken .noPath, "", "", disk⟩
    | some path =>
      if a.initConfig then createSettings disk path a
      else
        match settingsOf disk path a with
        | .error f => ⟨.broken f, "", "", disk⟩
        | .ok (s, told) => decodeWith disk network a.verbose s told

/-- Carries out what the arguments ask for, as `main` does: the arguments are read, and a request
that can be understood is carried out on the disk and the network that are there. -/
def run (disk : Files.Disk) (network : Web.Network) (arguments : List String) : Outcome :=
  match parse arguments with
  | .error m => ⟨.exited 2, "", usage ++ programName ++ ": error: " ++ m.message ++ "\n", disk⟩
  | .ok request => carryOut disk network request

end ApiOutline.Command
