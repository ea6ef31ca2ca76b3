/-
Paths.

A path leads from a folder to a file or another folder. What it leads through is separated by
slashes; single dots and empty parts stay where they are, two dots lead back. A path that begins
with a slash begins at the root, and one that ends with a slash or a dot has to lead to a folder.
-/
import ApiOutline.Text.Cut

set_option autoImplicit false

namespace ApiOutline.Files

/-- A path as a list of parts. -/
structure Path where
  fromRoot : Bool
  /-- The parts that lead somewhere. -/
  parts : List String
  /-- Does it end in nothing or in a single dot, so that it leads to a folder? -/
  toFolder : Bool
  /-- Is its last part a single dot? -/
  dotted : Bool
  deriving DecidableEq, Repr

namespace Path

/-- What stands between the slashes. -/
def pieces (s : String) : List String :=
  (Text.splitAt '/' s.toList).map String.ofList

/-- Does a piece lead nowhere else? -/
def stays (piece : String) : Bool :=
  piece == "" || piece == "."

/-- The path that a text writes. The empty text writes none. -/
def ofText? (s : String) : Option Path :=
  if s == "" then none
  else
    let ps := pieces s
    some {
      fromRoot := s.toList.head? == some '/'
      parts := ps.filter fun p => !stays p
      toFolder := (ps.getLast?).all stays
      dotted := (ps.filter (· != "")).getLast? == some "." }

/-! ## Cutting the text of a path -/

/-- Everything up to the last slash, and everything behind it. -/
def split (s : String) : String × String :=
  let cs := s.toList.reverse
  let last := (cs.takeWhile (· != '/')).reverse
  let lead := cs.dropWhile (· != '/')
  let lead := if lead.all (· == '/') then lead else lead.dropWhile (· == '/')
  (String.ofList lead.reverse, String.ofList last)

/-- What a path leads through last, before it ends. -/
def parent (s : String) : String := (split s).1

/-- A path inside the folder that another one leads to. -/
def join (folder name : String) : String :=
  if folder.toList.getLast? == some '/' then folder ++ name else folder ++ "/" ++ name

/-! ## Canonical form -/

/-- One part further from a place, which is given by its parts from the root. -/
def step (place : List String) (part : String) : List String :=
  if part == ".." then place.dropLast else place ++ [part]

/-- The place where a path leads from `start`, whatever is there. -/
def resolve (start : List String) (p : Path) : List String :=
  p.parts.foldl step (if p.fromRoot then [] else start)

/-- A place as a text. -/
def placeText (place : List String) : String :=
  "/" ++ "/".intercalate place

end Path

end ApiOutline.Files
