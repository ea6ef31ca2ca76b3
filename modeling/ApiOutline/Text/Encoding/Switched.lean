/-
Encodings that switch between sets.

All octets are small, and what they stand for depends on what stood in front of them. In most of
these encodings a sequence behind an escape announces a set: one for what follows, one for what
follows a shift, or one for single characters. An escape that announces nothing is kept, and so is
all that follows until a capital letter ends it. In one encoding a tilde and a brace announce the
set of two octets and take it back.
-/
import ApiOutline.Text.Encoding.Beginning
import ApiOutline.Text.Encoding.Chinese
import ApiOutline.Text.Encoding.Japanese
import ApiOutline.Text.Encoding.Korean

set_option autoImplicit false

namespace ApiOutline.Text

/-! ## Sets -/

/-- Sets that may be announced. -/
inductive CharacterSet where
  | ascii
  /-- ASCII with the sign of a currency and a line above. -/
  | roman
  /-- Japanese letters of one octet. -/
  | letters
  | japanese
  | supplement
  | firstPlane (edition : PlaneEdition)
  | secondPlane
  | korean
  | guobiao
  /-- The upper half of Latin. -/
  | latin
  /-- The upper half of a Greek set. -/
  | greek
  deriving DecidableEq, Repr

/-- The Greek set, from where it is not Latin. -/
def greekHalf : String :=
  "\u00a0‘’£\ufffd\ufffd¦§¨©\ufffd«¬\u00ad\ufffd―°±²³΄΅Ά·ΈΉΊ»Ό½ΎΏΐΑΒΓΔΕΖΗΘΙΚΛΜΝΞΟΠΡ\ufffdΣΤΥ" ++
  "ΦΧΨΩΪΫάέήίΰαβγδεζηθικλμνξοπρςστυφχψωϊϋόύώ\ufffd"

namespace CharacterSet

/-- Does a character take two octets? -/
def isWide : CharacterSet → Bool
  | .ascii | .roman | .letters | .latin | .greek => false
  | _ => true

/-- What two octets stand for. -/
def two? (s : CharacterSet) (a b : Nat) : Option (List Char) :=
  match s with
  | .japanese => (Grid.japanese.character? a b).map ([·])
  | .supplement => (Grid.japaneseSupplement.character? a b).map ([·])
  | .firstPlane edition => firstPlane? edition a b
  | .secondPlane => (secondPlane? .second a b).map ([·])
  | .korean => (Grid.korean.character? a b).map ([·])
  | .guobiao => (Grid.guobiao.character? a b).map ([·])
  | _ => none

/-- What an octet stands for. -/
def one? (s : CharacterSet) (a : Nat) : Option Char :=
  match s with
  | .roman => some (if a = 0x5C then '¥' else if a = 0x7E then '‾' else Char.ofNat a)
  | .letters => if 0x21 ≤ a && a ≤ 0x5F then some (Char.ofNat (0xFF40 + a)) else none
  | _ => some (Char.ofNat a)

/-- What an octet stands for that is announced on its own. -/
def single? (s : CharacterSet) (a : Nat) : Option Char :=
  match s with
  | .latin => if a < 0x80 then some (Char.ofNat (a + 0x80)) else none
  | .greek =>
    if 0x80 ≤ a then some (Char.ofNat (a - 0x80))
    else if a < 0x20 then some (Char.ofNat (a + 0x80))
    else (greekHalf.toList[a - 0x20]?).filter (· != replacement)
  | _ => if a < 0x80 then some (Char.ofNat a) else none

end CharacterSet

/-! ## Announcements -/

/-- An encoding by the sets that it knows beside ASCII. -/
structure Switching where
  /-- The sets, each with the octet that ends its announcement. -/
  sets : List (Char × CharacterSet)
  /-- May one shift to another set and back? -/
  shifts : Bool
  /-- May single characters of another set be announced? -/
  singles : Bool
  /-- May a set be announced as an edition of another one? -/
  editions : Bool
  deriving Repr

/-- Where an announcement puts a set. -/
inductive Slot where
  | plain
  | shifted
  | single
  deriving DecidableEq, Repr

/-- The sets of the moment. -/
structure Announced where
  plain : CharacterSet := .ascii
  shifted : CharacterSet := .ascii
  single : CharacterSet := .ascii
  isShifted : Bool := false
  /-- Within something that an escape began and that announces nothing. -/
  isStrange : Bool := false
  deriving Repr

def Announced.put (s : Announced) (slot : Slot) (set : CharacterSet) : Announced :=
  match slot with
  | .plain => { s with plain := set }
  | .shifted => { s with shifted := set }
  | .single => { s with single := set }

/-- Does an octet end what an escape has begun? -/
def isFinal (a : Nat) : Bool := 0x40 ≤ a && a ≤ 0x5A

/-- Where an announcement ends. -/
inductive AnnouncementEnd where
  /-- How many octets it has behind the escape. -/
  | behind (count : Nat)
  /-- Nowhere near. -/
  | nowhere
  | cut
  deriving DecidableEq, Repr

/-- How far an announcement may go. -/
def announcementLimit : Nat := 16

def announcementEnd (editions : Bool) (place : Nat) (octets : List Nat) : AnnouncementEnd :=
  if announcementLimit ≤ place then .nowhere
  else
    match octets with
    | [] => .cut
    | a :: rest =>
      if isFinal a then .behind place
      else if editions && a = 0x26 && rest.head? = some 0x40 then
        announcementEnd editions (place + 3) (rest.drop 2)
      else announcementEnd editions (place + 1) rest
termination_by octets.length
decreasing_by all_goals simp only [List.length_drop, List.length_cons]; omega

/-- What an announcement behind the escape says, if it says anything: a slot, whether the set is
wide, and the octet that names it. -/
def announcement? (e : Switching) : List Nat → Option (Slot × Bool × Nat)
  | [0x24, name] => some (.plain, true, name)
  | [0x28, name] => some (.plain, false, name)
  | [0x29, name] => some (.shifted, false, name)
  | [0x2E, name] => if e.singles then some (.single, false, name) else none
  | [0x24, 0x28, name] => some (.plain, true, name)
  | [0x24, 0x29, name] => some (.shifted, true, name)
  | [_, _, 0x1B, 0x24, 0x42] => if e.editions then some (.plain, true, 0x42) else none
  | _ => none

namespace Switching

/-- The set of a name. -/
def set? (e : Switching) (wide : Bool) (name : Nat) : Option CharacterSet :=
  if !wide && name = 0x42 then some .ascii
  else (e.sets.find? fun s => s.1.toNat = name && s.2.isWide = wide).map Prod.snd

/-- What an escape begins with what is behind it. -/
def escape (e : Switching) (s : Announced) (rest : List Nat) : Beginning × Announced :=
  match rest with
  | [] => (.part, s)
  | a :: more =>
    if [0x28, 0x29, 0x24, 0x2E, 0x26].contains a then
      match announcementEnd e.editions 1 rest with
      | .cut => (.part, s)
      | .nowhere => (.nothing 0, s)
      | .behind count =>
        match announcement? e (rest.take count) with
        | none => (.nothing count, s)
        | some (slot, wide, name) =>
          match e.set? wide name with
          | none => (.nothing count, s)
          | some set => (.characters [] count, s.put slot set)
    else if e.singles && a = 0x4E then
      match more with
      | [] => (.part, s)
      | b :: _ =>
        match s.single.single? b with
        | some c => (.characters [c] 2, s)
        | none => (.nothing 2, s)
    else (.characters [Char.ofNat 0x1B] 0, { s with isStrange := true })

/-- What octets begin with. -/
def front (e : Switching) (s : Announced) (a : Nat) (rest : List Nat) : Beginning × Announced :=
  let itself := Beginning.characters [Char.ofNat a] 0
  if s.isStrange then (itself, { s with isStrange := !isFinal a })
  else if a = 0x1B then e.escape s rest
  else if a = 0x0F && e.shifts then (.characters [] 0, { s with isShifted := false })
  else if a = 0x0E && e.shifts then (.characters [] 0, { s with isShifted := true })
  else if a = 0x0A then (itself, { s with isShifted := false })
  else if a < 0x20 then (itself, s)
  else if 0x80 ≤ a then (.nothing 0, s)
  else
    let set := if s.isShifted then s.shifted else s.plain
    if set.isWide then
      match rest with
      | [] => (.part, s)
      | b :: _ =>
        match set.two? a b with
        | some cs => (.characters cs 1, s)
        | none => (.nothing 1, s)
    else (.ofCharacter (set.one? a) 0, s)

def toChars? (e : Switching) (octets : List Nat) : Option (List Char) :=
  charactersBy? e.front {} octets

/-! ## The encodings -/

/-- The Japanese sets that every one of the Japanese encodings knows. -/
def commonSets : List (Char × CharacterSet) :=
  [('B', .japanese), ('@', .japanese), ('J', .roman)]

/-- An encoding for Japanese with some sets. -/
def ofSets (sets : List (Char × CharacterSet)) : Switching :=
  { sets, shifts := false, singles := false, editions := true }

def korean : Switching :=
  { sets := [('C', .korean)], shifts := true, singles := false, editions := false }

def japanese : Switching := ofSets commonSets

def japaneseSupplemented : Switching := ofSets (commonSets ++ [('D', .supplement)])

def japaneseWithLetters : Switching :=
  ofSets (commonSets ++ [('D', .supplement), ('I', .letters)])

def manyTongues : Switching :=
  { ofSets (commonSets ++ [('D', .supplement), ('C', .korean), ('A', .guobiao), ('A', .latin),
      ('F', .greek)]) with singles := true }

def japanesePlanes (edition : PlaneEdition) : Switching :=
  let name := match edition with
    | .first => 'O'
    | .second => 'Q'
  ofSets [('B', .japanese), (name, .firstPlane edition), ('P', .secondPlane)]

end Switching

/-! ## Tildes -/

/-- What octets begin with where tildes announce, given whether they have announced the set of two
octets. A tilde at the end of a line is not written, nor is the end of the line. -/
def tildeFront (wide : Bool) (a : Nat) (rest : List Nat) : Beginning × Bool :=
  if a = 0x7E then
    match rest with
    | [] => (.part, wide)
    | b :: _ =>
      if wide then if b = 0x7D then (.characters [] 1, false) else (.nothing 0, wide)
      else if b = 0x7E then (.characters ['~'] 1, wide)
      else if b = 0x7B then (.characters [] 1, true)
      else if b = 0x0A then (.characters [] 1, wide)
      else (.nothing 0, wide)
  else if 0x80 ≤ a then (.nothing 0, wide)
  else if wide then
    match rest with
    | [] => (.part, wide)
    | b :: _ => (.ofCharacter (Grid.guobiao.character? a b) 1, wide)
  else (.characters [Char.ofNat a] 0, wide)

end ApiOutline.Text
