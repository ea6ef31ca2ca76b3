/-
Patterns of text.

Several notations in documents are regular: a number, a date, a version. A pattern says which
texts are meant, and it is matched by taking derivatives: the derivative by a character matches
the ways in which a text can go on behind that character.
-/

set_option autoImplicit false

namespace ApiOutline.Text

/-- A regular pattern over characters. -/
inductive Pattern where
  | never
  | nothing
  | one (p : Char → Bool)
  | either (a b : Pattern)
  | seq (a b : Pattern)
  | many (a : Pattern)

namespace Pattern

/-- Does a pattern stand for the empty text? -/
def skippable : Pattern → Bool
  | .never => false
  | .nothing => true
  | .one _ => false
  | .either a b => skippable a || skippable b
  | .seq a b => skippable a && skippable b
  | .many _ => true

/-- How a text can go on behind a character. -/
def after (c : Char) : Pattern → Pattern
  | .never => .never
  | .nothing => .never
  | .one p => if p c then .nothing else .never
  | .either a b => .either (after c a) (after c b)
  | .seq a b =>
    if skippable a then .either (.seq (after c a) b) (after c b) else .seq (after c a) b
  | .many a => .seq (after c a) (.many a)

/-- The same pattern without parts that nothing can match. -/
def pruned : Pattern → Pattern
  | .either a b =>
    match pruned a, pruned b with
    | .never, q => q
    | p, .never => p
    | p, q => .either p q
  | .seq a b =>
    match pruned a, pruned b with
    | .never, _ => .never
    | _, .never => .never
    | .nothing, q => q
    | p, q => .seq p q
  | p => p

/-- Does a pattern stand for a text? -/
def accepts (p : Pattern) : List Char → Bool
  | [] => p.skippable
  | c :: rest => accepts (pruned (after c p)) rest

/-! ## Writing patterns -/

/-- A given text. -/
def word (s : String) : Pattern :=
  s.toList.foldr (fun c p => .seq (.one (· == c)) p) .nothing

/-- One of some characters. -/
def oneOf (s : String) : Pattern := .one fun c => s.toList.contains c

/-- Something or nothing. -/
def optional (a : Pattern) : Pattern := .either a .nothing

/-- Once or more often. -/
def repeated (a : Pattern) : Pattern := .seq a (.many a)

/-- One part behind the other. -/
def chain : List Pattern → Pattern
  | [] => .nothing
  | [a] => a
  | a :: rest => .seq a (chain rest)

/-- Any of some patterns. -/
def anyOf : List Pattern → Pattern
  | [] => .never
  | [a] => a
  | a :: rest => .either a (anyOf rest)

/-- A decimal digit of ASCII. -/
def digit : Pattern := .one fun c => '0' ≤ c && c ≤ '9'

end Pattern

end ApiOutline.Text
