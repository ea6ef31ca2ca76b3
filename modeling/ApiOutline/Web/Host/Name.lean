/-
Names in other scripts.

A name with letters of other scripts is known to the network under another form, in which every
label is ASCII; a label that needed to be changed begins with `xn--`. One form is found from the
other, label by label, and labels are checked on the way there and on the way back.
-/
import ApiOutline.Text.Cut
import ApiOutline.Text.Punycode
import ApiOutline.Web.Host.Label

set_option autoImplicit false

namespace ApiOutline.Web.Host

/-- What is wrong with a name. -/
inductive NameDefect where
  | empty
  | tooLong
  | label (d : LabelDefect)
  /-- Nothing behind the beginning that announces a label in ASCII. -/
  | nothingAnnounced
  | hyphenBehind
  | undecodable
  deriving DecidableEq, Repr

def NameDefect.message : NameDefect → String
  | .empty => "Empty domain"
  | .tooLong => "Domain too long"
  | .label d => d.message
  | .nothingAnnounced => "Malformed A-label, no Punycode eligible content found"
  | .hyphenBehind => "A-label must not end with a hyphen"
  | .undecodable => "Invalid A-label"

/-- What announces a label in ASCII. -/
def announcement : List Char := "xn--".toList

/-- Labels that go over the network have this many characters at most. -/
def labelLimit : Nat := 63

/-- Names have this many characters at most, a dot at the end not counted. -/
def nameLimit : Nat := 253

/-- Dots of several scripts end a label. -/
def isDot (c : Char) : Bool :=
  c == '.' || c == '\u3002' || c == '\uff0e' || c == '\uff61'

/-- The labels of a name, and whether there is a dot behind the last one. -/
def labels (name : List Char) : Except NameDefect (List (List Char) × Bool) :=
  let all := Text.splitAt '.' (name.map fun c => if isDot c then '.' else c)
  if nameLimit + 1 < name.length then .error .tooLong
  else if all == [[]] then .error .empty
  else if all.getLast? == some [] then .ok (all.dropLast, true)
  else .ok (all, false)

/-- Labels as a name. -/
def joined (parts : List (List Char)) (hasDotBehind : Bool) : List Char :=
  ['.'].intercalate (parts ++ if hasDotBehind then [[]] else [])

/-- A label as people write it. -/
def shownLabel (label : List Char) : Except NameDefect (List Char) :=
  if !label.all Text.Punycode.isAscii then do
    (checkLabel label).mapError .label
    return label
  else
    let small := label.map Char.toLower
    match Text.after? announcement small with
    | none => do
      (checkLabel small).mapError .label
      return small
    | some behind =>
      if behind.isEmpty then .error .nothingAnnounced
      else if behind.getLast? == some '-' then .error .hyphenBehind
      else match Text.Punycode.decode behind with
        | none => .error .undecodable
        | some shown => do
          (checkLabel shown).mapError .label
          return shown

/-- A label as the network knows it. -/
def codedLabel (label : List Char) : Except NameDefect (List Char) := do
  let coded ←
    if label.all Text.Punycode.isAscii then do
      let _ ← shownLabel label
      pure label
    else do
      (checkLabel label).mapError .label
      pure (announcement ++ Text.Punycode.encode label)
  if labelLimit < coded.length then throw (.label .tooLong)
  return coded

/-- A name as the network knows it. -/
def codedName (name : List Char) : Except NameDefect (List Char) := do
  let (parts, hasDotBehind) ← labels name
  let coded := joined (← parts.mapM codedLabel) hasDotBehind
  if (if hasDotBehind then nameLimit + 1 else nameLimit) < coded.length then throw .tooLong
  return coded

/-- A name as people write it. -/
def shownName (name : List Char) : Except NameDefect (List Char) := do
  let (parts, hasDotBehind) ← labels name
  return joined (← parts.mapM shownLabel) hasDotBehind

end ApiOutline.Web.Host
