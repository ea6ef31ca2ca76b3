/-
Files and folders.

What a run reads and leaves behind is a value: the files there are, with their octets, the
folders there are, and the folder in which the run takes place. Everything is known by its place,
the list of names that lead there from the root. A path is followed name by name, so that it
fails at the first one that is missing or is no folder, and only then is the question asked what
is at its end.

`Disk.write` is the only operation that changes a file, and it changes one.
-/
import ApiOutline.Files.Path
import ApiOutline.Text.Utf8
import ApiOutline.Text.Printable
import ApiOutline.Value.Text

set_option autoImplicit false

namespace ApiOutline.Files

/-- Why a file or folder cannot be used. -/
inductive Problem where
  | missing
  | alreadyThere
  | notAFolder
  | isAFolder
  | nameTooLong
  /-- The path contains a zero character. -/
  | badPath
  deriving DecidableEq, Repr

/-- A problem and the path with which it arose. -/
structure Fault where
  problem : Problem
  path : String
  deriving DecidableEq, Repr

namespace Problem

/-- The number under which systems report a problem. -/
def number : Problem → Nat
  | .missing => 2
  | .alreadyThere => 17
  | .notAFolder => 20
  | .isAFolder => 21
  | .nameTooLong => 36
  | .badPath => 22

def text : Problem → String
  | .missing => "No such file or directory"
  | .alreadyThere => "File exists"
  | .notAFolder => "Not a directory"
  | .isAFolder => "Is a directory"
  | .nameTooLong => "File name too long"
  | .badPath => "embedded null byte"

end Problem

def Fault.message (f : Fault) : String :=
  match f.problem with
  | .badPath => f.problem.text
  | p => "[Errno " ++ Decimal.digitText p.number ++ "] " ++ p.text ++ ": " ++ Text.quoted f.path

structure Disk where
  files : List (List String × List UInt8)
  folders : List (List String)
  /-- The folder in which relative paths begin. -/
  here : List String

/-- What is at a place. -/
inductive Item where
  | file (octets : List UInt8)
  | folder

namespace Disk

/-- The octets of the file at a place. -/
def fileAt (d : Disk) (place : List String) : Option (List UInt8) :=
  d.files.lookup place

/-- The root is always a folder. -/
def hasFolder (d : Disk) (place : List String) : Bool :=
  place.isEmpty || d.folders.contains place

def at? (d : Disk) (place : List String) : Option Item :=
  if d.hasFolder place then some .folder else (d.fileAt place).map .file

/-! ## Following paths -/

/-- Names have 255 octets at most. -/
def nameLimit : Nat := 255

/-- Paths have fewer octets than this. -/
def pathLimit : Nat := 4096

/-- The place of an item in a folder. -/
def enter (d : Disk) (place : List String) (part : String) : Except Problem (List String) :=
  if !d.hasFolder place then
    .error (if (d.fileAt place).isSome then .notAFolder else .missing)
  else if nameLimit < part.utf8ByteSize then .error .nameTooLong
  else .ok (Path.step place part)

/-- The place where a path ends. Everything it leads through is a folder; at its end there may be
nothing. -/
def follow (d : Disk) (p : Path) : Except Problem (List String) :=
  p.parts.foldlM d.enter (if p.fromRoot then [] else d.here)

/-- The path that a text writes, and the place where it ends. -/
def locate (d : Disk) (s : String) : Except Problem (Path × List String) :=
  if s.toList.contains '\x00' then .error .badPath
  else if pathLimit ≤ s.utf8ByteSize then .error .nameTooLong
  else
    match Path.ofText? s with
    | none => .error .missing
    | some p => (d.follow p).map fun place => (p, place)

/-- What is at the end of a path. -/
def find (d : Disk) (s : String) : Except Problem Item := do
  let (p, place) ← d.locate s
  match d.at? place with
  | none => .error .missing
  | some .folder => .ok .folder
  | some (.file octets) => if p.toFolder then .error .notAFolder else .ok (.file octets)

/-- Is there anything at the end of a path? -/
def has (d : Disk) (s : String) : Bool :=
  (d.find s).isOk

/-- Is there a folder at the end of a path? -/
def isFolder (d : Disk) (s : String) : Bool :=
  match d.find s with
  | .ok .folder => true
  | _ => false

/-! ## Reading and writing -/

/-- The octets of a file. -/
def read (d : Disk) (s : String) : Except Fault (List UInt8) :=
  match d.find s with
  | .ok (.file octets) => .ok octets
  | .ok .folder => .error ⟨.isAFolder, s⟩
  | .error p => .error ⟨p, s⟩

/-- Entries with one of them replaced, or added at the end. -/
def replace (place : List String) (octets : List UInt8) :
    List (List String × List UInt8) → List (List String × List UInt8)
  | [] => [(place, octets)]
  | (other, old) :: rest =>
    if place == other then (place, octets) :: rest
    else (other, old) :: replace place octets rest

/-- The disk with a file in which something else stands, or with a new one. A path that ends with
a slash is taken for a folder. -/
def write (d : Disk) (s : String) (octets : List UInt8) : Except Fault Disk :=
  match d.locate s with
  | .error p => .error ⟨p, s⟩
  | .ok (p, place) =>
    if d.hasFolder place then .error ⟨.isAFolder, s⟩
    else if p.dotted then
      .error ⟨if (d.fileAt place).isSome then .notAFolder else .missing, s⟩
    else if p.toFolder then .error ⟨.isAFolder, s⟩
    else .ok { d with files := replace place octets d.files }

/-- The disk with a new folder. A dot at the end of a path says that something before it is one
already. -/
def makeFolder (d : Disk) (s : String) : Except Fault Disk :=
  match d.locate s with
  | .error p => .error ⟨p, s⟩
  | .ok (p, place) =>
    match d.at? place with
    | some (.file _) => .error ⟨if p.dotted then .notAFolder else .alreadyThere, s⟩
    | some .folder => .error ⟨.alreadyThere, s⟩
    | none =>
      if p.dotted then .error ⟨.missing, s⟩ else .ok { d with folders := place :: d.folders }

/-- The disk with a folder at the end of a path, or why there can be none. A folder that is there
already is no problem. -/
def ensureFolder (d : Disk) (s : String) : Disk × Option Fault :=
  match d.makeFolder s with
  | .ok d => (d, none)
  | .error f => (d, if d.isFolder s then none else some f)

/-- What a path leads through, and its last part. A slash at the end is no part. -/
def lastStep (s : String) : String × String :=
  let parts := Path.split s
  if parts.2 == "" then Path.split parts.1 else parts

/-- As `ensureFolder`, with everything that the path leads through. What was made on the way to a
failure stays. -/
def makeFolders : (fuel : Nat) → String → Disk → Disk × Option Fault
  | 0, s, d => d.ensureFolder s
  | fuel + 1, s, d =>
    let lead := (lastStep s).1
    let last := (lastStep s).2
    if lead != "" && last != "" && !d.has lead then
      let made := makeFolders fuel lead d
      if made.2.all fun f => f.problem == .alreadyThere then
        if last == "." then (made.1, none) else made.1.ensureFolder s
      else made
    else d.ensureFolder s

/-- A text as a file. -/
def writeText (d : Disk) (s text : String) : Except Fault Disk :=
  d.write s (Text.encodeUtf8 text)

/-- The absolute form of a path. -/
def fullPath (d : Disk) (s : String) : String :=
  match Path.ofText? s with
  | none => Path.placeText d.here
  | some p => Path.placeText (p.resolve d.here)

/-! ## Building disks -/

/-- All places on the way to a place. -/
def waysTo (place : List String) : List (List String) :=
  (List.range place.length).map fun n => place.take n

/-- The disk with a file at a place, and with the folders on the way there. -/
def addFile (d : Disk) (place : List String) (octets : List UInt8) : Disk :=
  { d with
    files := replace place octets d.files
    folders := (waysTo place).filter (fun w => !d.folders.contains w) ++ d.folders }

/-- A disk with nothing but the folder in which things take place. -/
def empty (here : List String) : Disk where
  files := []
  folders := here :: waysTo here
  here := here

/-- A disk with some files, given by where they are from the folder in which things take place. -/
def ofFiles (here : List String) (files : List (List String × List UInt8)) : Disk :=
  files.foldl (fun d (place, octets) => d.addFile (here ++ place) octets) (empty here)

/-! ## What writing changes -/

theorem lookup_cons_eq (other place : List String) (octets : List UInt8)
    (rest : List (List String × List UInt8)) :
    ((place, octets) :: rest).lookup other =
      if other = place then some octets else rest.lookup other := by
  by_cases h : other = place
  · simp [h]
  · have hb : (other == place) = false := beq_eq_false_iff_ne.2 h
    rw [List.lookup_cons, hb]
    simp [h]

theorem lookup_replace (place other : List String) (octets : List UInt8)
    (files : List (List String × List UInt8)) :
    (replace place octets files).lookup other =
      if other = place then some octets else files.lookup other := by
  induction files with
  | nil => exact lookup_cons_eq ..
  | cons f rest ih =>
    obtain ⟨p, old⟩ := f
    by_cases hp : place = p
    · subst hp
      by_cases ho : other = place <;> simp [replace, lookup_cons_eq, ho]
    · by_cases ho : other = p
      · have hne : ¬ p = place := fun h => hp h.symm
        simp [replace, hp, ho, hne]
      · simp [replace, hp, lookup_cons_eq, ho, ih]

/-- Making a folder changes no file. -/
theorem files_makeFolder {d e : Disk} {s : String} (h : d.makeFolder s = .ok e) :
    e.files = d.files := by
  simp only [makeFolder] at h
  split at h
  · simp at h
  · split at h
    · simp at h
    · simp at h
    · split at h
      · simp at h
      · cases h; rfl

theorem files_ensureFolder (d : Disk) (s : String) : (d.ensureFolder s).1.files = d.files := by
  unfold ensureFolder
  split
  · next h => exact files_makeFolder h
  · rfl

/-- Making folders changes no file, whether it succeeds or not. -/
theorem files_makeFolders (fuel : Nat) (s : String) (d : Disk) :
    (makeFolders fuel s d).1.files = d.files := by
  induction fuel generalizing s d with
  | zero => exact files_ensureFolder d s
  | succ fuel ih =>
    have made : (makeFolders fuel (lastStep s).1 d).1.files = d.files := ih (lastStep s).1 d
    rw [makeFolders]
    generalize makeFolders fuel (lastStep s).1 d = r at made
    dsimp only
    split
    · split
      · split
        · exact made
        · exact (files_ensureFolder r.1 s).trans made
      · exact made
    · exact files_ensureFolder d s

end Disk

end ApiOutline.Files
