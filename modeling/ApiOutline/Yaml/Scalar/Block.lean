/-
Block texts.

A text of several lines can follow its header as a block that is indented further than what
surrounds it. In a literal block every break is kept, in a folded one a break between two lines
becomes a space. The header may give the indentation, and it says what becomes of the breaks at
the end: dropped, kept, or reduced to one.
-/
import ApiOutline.Yaml.Scalar.Quoted

set_option autoImplicit false

namespace ApiOutline.Yaml

/-- What becomes of the breaks at the end. -/
inductive Chomping where
  | clip
  | strip
  | keep
  deriving DecidableEq, Repr

structure BlockHeader where
  chomping : Chomping
  /-- How much further than its surroundings the block is indented, if that is said. -/
  increment : Option Nat
  deriving Repr

def chomping? : Char → Option Chomping
  | '+' => some .keep
  | '-' => some .strip
  | _ => none

/-- An increment, which is not zero. -/
def increment? (c : Char) : Option Nat :=
  if '1' ≤ c ∧ c ≤ '9' then some (c.toNat - '0'.toNat) else none

/-- The two indicators, in either order. -/
def readIndicators (cs : List Spot) : Reading (BlockHeader × List Spot) :=
  let (header, rest) : BlockHeader × List Spot :=
    match chomping? (front cs), increment? (front cs) with
    | some k, _ =>
      match increment? (ahead 1 cs) with
      | some n => (⟨k, some n⟩, cs.drop 2)
      | none => (⟨k, none⟩, cs.drop 1)
    | none, some n =>
      match chomping? (ahead 1 cs) with
      | some k => (⟨k, some n⟩, cs.drop 2)
      | none => (⟨.clip, some n⟩, cs.drop 1)
    | none, none => (⟨.clip, none⟩, cs)
  if endsWord (front rest) then .ok (header, rest) else failAt .badBlockHeader rest

/-- The rest of a line on which only a comment may follow, and its end. -/
def skipLine (d : Defect) (cs : List Spot) : Reading (List Spot) :=
  let rest := skipComment (skip isSpace cs)
  if isLineEnd (front rest) then .ok (((lineBreak? rest).map Prod.snd).getD rest)
  else failAt d rest

/-- The breaks of blank lines, the widest column among those lines, and what is left. -/
def measureBlanks : (fuel : Nat) → (widest : Nat) → List Char → List Spot →
    List Char × Nat × List Spot
  | 0, widest, done, cs => (done.reverse, widest, cs)
  | fuel + 1, widest, done, cs =>
    if front cs == ' ' then
      let rest := cs.drop 1
      measureBlanks fuel (max widest (here rest).column) done rest
    else
      match lineBreak? cs with
      | some (c, rest) => measureBlanks fuel widest (c :: done) rest
      | none => (done.reverse, widest, cs)

/-- Behind the spaces in front of column `indent`. -/
def skipIndent (indent : Nat) (cs : List Spot) : List Spot :=
  cs.dropWhile fun s => s.place.column < indent && isSpace s.char

/-- The breaks of lines with nothing at or behind column `indent`. -/
def blockBreaks (indent : Nat) : (fuel : Nat) → List Char → List Spot → List Char × List Spot
  | 0, done, cs => (done.reverse, cs)
  | fuel + 1, done, cs =>
    let rest := skipIndent indent cs
    match lineBreak? rest with
    | some (c, rest) => blockBreaks indent fuel (c :: done) rest
    | none => (done.reverse, rest)

/-- What stands between two lines of a block. A break in a folded block is folded if neither line
begins with a blank. -/
def lineJoint (folded plainBefore plainBehind : Bool) (break? : Option Char)
    (breaks : List Char) : List Char :=
  if folded && break? == some '\n' && plainBefore && plainBehind then
    if breaks.isEmpty then [' '] else breaks
  else break?.toList ++ breaks

/-- What the breaks at the end of a block leave. -/
def blockTail (chomping : Chomping) (break? : Option Char) (breaks : List Char) : List Char :=
  match chomping with
  | .strip => []
  | .clip => break?.toList
  | .keep => break?.toList ++ breaks

/-- The lines of a block, the first of which begins here; `done` are the characters before, last
one first. -/
def readBlockLines (folded : Bool) (chomping : Chomping) (indent : Nat) :
    (fuel : Nat) → List Char → List Spot → String × List Spot
  | 0, done, cs => (String.ofList done.reverse, cs)
  | fuel + 1, done, cs =>
    let plainBefore := !isBlank (front cs)
    let done := (leading (fun c => !isLineEnd c) cs).reverse ++ done
    let behind := skip (fun c => !isLineEnd c) cs
    let break? := (lineBreak? behind).map Prod.fst
    let behind := ((lineBreak? behind).map Prod.snd).getD behind
    let (breaks, behind) := blockBreaks indent (behind.length + 1) [] behind
    if (here behind).column == indent && !isEnd (front behind) then
      let joint := lineJoint folded plainBefore (!isBlank (front behind)) break? breaks
      readBlockLines folded chomping indent fuel (joint.reverse ++ done) behind
    else
      (String.ofList (done.reverse ++ blockTail chomping break? breaks), behind)

/-- A block, from its header on, inside something that is indented by `indent`. -/
def readBlock (folded : Bool) (indent : Int) (cs : List Spot) : Reading (String × List Spot) := do
  let (header, rest) ← readIndicators (cs.drop 1)
  let rest ← skipLine .badBlockHeader rest
  let least := (max 1 (indent + 1)).toNat
  let (breaks, indent, rest) : List Char × Nat × List Spot :=
    match header.increment with
    | none =>
      let (breaks, widest, rest) := measureBlanks (rest.length + 1) 0 [] rest
      (breaks, max least widest, rest)
    | some n =>
      let indent := least + n - 1
      let (breaks, rest) := blockBreaks indent (rest.length + 1) [] rest
      (breaks, indent, rest)
  if (here rest).column == indent && !isEnd (front rest) then
    return readBlockLines folded header.chomping indent rest.length breaks.reverse rest
  else
    return (String.ofList (blockTail header.chomping none breaks), rest)

end ApiOutline.Yaml
