/-
Plain texts.

A text without quotes ends where something else could begin: at a colon with a blank behind it, at
a comment, and inside brackets at a bracket, a comma or a question mark. It may go on in the next
line if that is indented further than what surrounds it.
-/
import ApiOutline.Yaml.Scalar.Quoted

set_option autoImplicit false

namespace ApiOutline.Yaml

/-- Characters that mean something inside brackets. -/
def isFlowMark (c : Char) : Bool :=
  c == ',' || c == '[' || c == ']' || c == '\x7b' || c == '\x7d'

/-- Does a plain text end in front of this? -/
def endsPlain (inFlow : Bool) (cs : List Spot) : Bool :=
  let c := front cs
  endsToken c ||
    (c == ':' && (endsToken (ahead 1 cs) || (inFlow && isFlowMark (ahead 1 cs)))) ||
    (inFlow && (isFlowMark c || c == '?'))

/-- The characters up to where a plain text has to end. -/
def plainRun (inFlow : Bool) : List Spot → List Char × List Spot
  | [] => ([], [])
  | s :: rest =>
    if endsPlain inFlow (s :: rest) then ([], s :: rest)
    else
      let (run, behind) := plainRun inFlow rest
      (s.char :: run, behind)

/-- What stands between two runs of a plain text. -/
structure Gap where
  /-- What it stands for; nothing at all ends the text. -/
  chars : List Char
  /-- Has a line ended? -/
  broken : Bool
  rest : List Spot

/-- The breaks of the lines that follow, spaces around them left out, up to a document mark; the
flag tells if there is one. -/
def plainBreaks : (fuel : Nat) → List Char → List Spot → List Char × Bool × List Spot
  | 0, done, cs => (done.reverse, false, cs)
  | fuel + 1, done, cs =>
    if front cs == ' ' then plainBreaks fuel done (cs.drop 1)
    else
      match lineBreak? cs with
      | none => (done.reverse, false, cs)
      | some (c, rest) =>
        if atDocumentMark rest then (done.reverse, true, rest)
        else plainBreaks fuel (c :: done) rest

/-- The gap behind a run. -/
def plainGap (cs : List Spot) : Gap :=
  let rest := skip isSpace cs
  match lineBreak? rest with
  | none => ⟨leading isSpace cs, false, rest⟩
  | some (first, rest) =>
    if atDocumentMark rest then ⟨[], true, rest⟩
    else
      let (others, marked, rest) := plainBreaks (rest.length + 1) [] rest
      if marked then ⟨[], true, rest⟩ else ⟨foldedBreak first others, true, rest⟩

/-- A plain text, and whether its line has ended. -/
structure Plain where
  text : String
  broken : Bool
  rest : List Spot

/-- Runs and gaps. `done` are the characters before, last one first, and `gap` is what stands in
front of the next run. -/
def readPlainFrom (inFlow : Bool) (indent : Int) :
    (fuel : Nat) → List Char → Gap → Plain
  | 0, done, gap => ⟨String.ofList done.reverse, gap.broken, gap.rest⟩
  | fuel + 1, done, gap =>
    let finished : Plain := ⟨String.ofList done.reverse, gap.broken, gap.rest⟩
    if front gap.rest == '#' then finished
    else
      match plainRun inFlow gap.rest with
      | ([], _) => finished
      | (run, rest) =>
        let done := run.reverse ++ (gap.chars.reverse ++ done)
        let gap := plainGap rest
        if gap.chars.isEmpty || front gap.rest == '#' ||
            (!inFlow && ((here gap.rest).column : Int) < indent) then
          ⟨String.ofList done.reverse, gap.broken, gap.rest⟩
        else readPlainFrom inFlow indent fuel done gap

/-- A plain text inside something that is indented by `indent`. -/
def readPlain (inFlow : Bool) (indent : Int) (cs : List Spot) : Plain :=
  readPlainFrom inFlow (indent + 1) cs.length [] ⟨[], false, cs⟩

/-- Can a plain text begin here? -/
def beginsPlain (inFlow : Bool) (cs : List Spot) : Bool :=
  let c := front cs
  !(endsToken c || "-?:,[]\x7b\x7d#&*!|>\x27\x22%@\x60".toList.contains c) ||
    (!endsToken (ahead 1 cs) && (c == '-' || (!inFlow && (c == '?' || c == ':'))))

end ApiOutline.Yaml
