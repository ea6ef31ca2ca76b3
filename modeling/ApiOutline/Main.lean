/-
The command line.

Everything is decided in `Command.run`. Here the files that the arguments lead to are gathered
into a disk, and what the command leaves behind is written out: files, texts and the status.
Addresses on the network are not reached from here.
-/
import ApiOutline.Command.Run

set_option autoImplicit false

namespace ApiOutline.Terminal

open Files (Disk Path)

/-- The disk with what there is at a place. -/
def lookAt (disk : Disk) (place : List String) : IO Disk := do
  let real := (← IO.currentDir) / Path.placeText place
  if ← real.isDir then return { disk with folders := place :: disk.folders }
  else if ← real.pathExists then
    return disk.addFile place (← IO.FS.readBinFile real).toList
  else return disk

/-- The disk with what there is where a value leads, if it is a path, and on the way there. -/
def lookFor (disk : Disk) (v : Value) : IO Disk := do
  match v with
  | .scalar (.str s) =>
    match Path.ofText? s with
    | none => return disk
    | some p =>
      let place := p.resolve disk.here
      (Disk.waysTo place ++ [place]).foldlM lookAt disk
  | _ => return disk

/-- The disk with everything that the arguments lead to. -/
def gather (disk : Disk) (arguments : List String) : IO Disk := do
  match Command.parse arguments with
  | .ok (.run a) =>
    let path := a.config.getD ""
    let disk ← lookFor disk (.str path)
    match Command.settingsOf disk path a with
    | .ok (s, _) => lookFor (← lookFor disk s.spec) s.output
    | .error _ => return disk
  | _ => return disk

/-- Writes the files that are not as they were. -/
def writeChanges (before after : Disk) : IO Unit := do
  let root ← IO.currentDir
  for (place, octets) in after.files do
    if before.fileAt place != some octets then
      IO.FS.createDirAll (root / Path.placeText place.dropLast)
      IO.FS.writeBinFile (root / Path.placeText place) ⟨octets.toArray⟩

/-- The status of a command for whoever started it, who is told about a fault that was not
reported. -/
def statusOf : Command.Ending → IO UInt32
  | .returned => return 0
  | .exited status => return status.toUInt32
  | .broken f => do
    IO.eprintln f.message
    return 1

/-- Carries out a command where it was started. -/
def runHere (arguments : List String) : IO UInt32 := do
  let here := (Path.ofText? (← IO.currentDir).toString).map fun p => p.resolve []
  let before ← gather (.empty (here.getD [])) arguments
  let outcome := Command.run before [] arguments
  writeChanges before outcome.disk
  IO.print outcome.stdout
  IO.eprint outcome.stderr
  statusOf outcome.ending

end ApiOutline.Terminal

def main (arguments : List String) : IO UInt32 :=
  ApiOutline.Terminal.runHere arguments
