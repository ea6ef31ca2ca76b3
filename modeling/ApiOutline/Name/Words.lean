/-
The words of a name.

Names come in every convention: `page_size`, `X-Request-ID`, `HTMLParser2`. Characters that are
not alphanumeric separate words and belong to none. What is left, a chunk, is cut where the case
tells a new word: before a capital that follows a small letter, and before the last of several
capitals when small letters follow it. Digits go with the small letters before them and stand
alone otherwise.
-/
import ApiOutline.Text.Alphanumeric
import ApiOutline.Text.Digit
import ApiOutline.Text.Letter

set_option autoImplicit false

namespace ApiOutline.Name

/-- What a character contributes to the cut, as `_char_class` tells it. Letters without case count
as small. -/
inductive Shape where
  | capital
  | small
  | digit
  deriving DecidableEq, Repr

/-- The shape of a character. Digit signs are digits even where they are capitals too. -/
def shapeOf (c : Char) : Shape :=
  if Text.isDigitSign c then .digit
  else if Text.isCapital c then .capital
  else .small

/-- How many of the first shapes are `s`. -/
def runLength (s : Shape) (shapes : List Shape) : Nat :=
  (shapes.takeWhile (· == s)).length

/-- Small letters and the digits behind them. -/
def tailLength (shapes : List Shape) : Nat :=
  let small := runLength .small shapes
  small + runLength .digit (shapes.drop small)

/-- The length of the word at the front of a chunk.

Capitals at the end of the chunk are one word. Before small letters the last capital begins the
next word, unless it is the only one, and then it begins this word. Before a digit every capital
is a word. -/
def wordLength : List Shape → Nat
  | [] => 0
  | .digit :: rest => 1 + runLength .digit rest
  | .small :: rest => tailLength (.small :: rest)
  | .capital :: rest =>
    let capitals := runLength .capital rest
    match rest.drop capitals with
    | [] => 1 + capitals
    | .small :: _ => if capitals = 0 then 1 + tailLength rest else capitals
    | _ => 1

theorem wordLength_pos {s : Shape} {rest : List Shape} : 0 < wordLength (s :: rest) := by
  cases s with
  | digit => simp only [wordLength]; omega
  | small =>
    simp only [wordLength, tailLength, runLength, List.takeWhile_cons, beq_self_eq_true, if_true,
      List.length_cons]
    omega
  | capital =>
    simp only [wordLength]
    split
    · omega
    · split <;> omega
    · omega

/-- The words of a chunk, one after the other. -/
def wordsOfChunk (chunk : List Char) : List (List Char) :=
  match chunk with
  | [] => []
  | c :: rest =>
    let n := wordLength ((c :: rest).map shapeOf)
    (c :: rest).take n :: wordsOfChunk ((c :: rest).drop n)
termination_by chunk.length
decreasing_by
  simp only [List.length_drop, List.map_cons, List.length_cons]
  have h : 0 < wordLength (shapeOf c :: rest.map shapeOf) := wordLength_pos
  omega

/-- The maximal runs of alphanumeric characters, in order. `run` holds the characters of the run
that is being read, last one first. -/
def chunksFrom (run : List Char) : List Char → List (List Char)
  | [] => if run.isEmpty then [] else [run.reverse]
  | c :: rest =>
    if Text.isAlphanumeric c then chunksFrom (c :: run) rest
    else if run.isEmpty then chunksFrom [] rest
    else run.reverse :: chunksFrom [] rest

/-- The maximal runs of alphanumeric characters. -/
def chunks (cs : List Char) : List (List Char) :=
  chunksFrom [] cs

/-- The words of a text. -/
def wordsOf (cs : List Char) : List (List Char) :=
  (chunks cs).flatMap wordsOfChunk

/-- The words of a name, as `split_words` finds them: the runs of alphanumeric characters, each
cut by the shapes of its characters. -/
def words (name : String) : List String :=
  (wordsOf name.toList).map String.ofList

/-- Words with their first letters raised and the others lowered, joined without a separator. -/
def capitalizedJoin (ws : List (List Char)) : List Char :=
  ws.flatMap Text.capitalizeChars

/-- A name in camel case, as `camel_case` writes it: the first word small, the others capitalized.
-/
def camelCase (name : String) : String :=
  match wordsOf name.toList with
  | [] => ""
  | w :: ws => String.ofList (Text.lowerChars w ++ capitalizedJoin ws)

end ApiOutline.Name
