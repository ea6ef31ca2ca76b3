/-
Numbers as hosts.

A host may be given by its number instead of a name: by four numbers with dots between them, or,
in brackets, by eight groups of hexadecimal digits with colons, where one row of zeros may be left
out. Behind a percent sign may stand the part of the network in which such a number is meant.
-/
import ApiOutline.Text.Cut
import ApiOutline.Text.Numeral

set_option autoImplicit false

namespace ApiOutline.Web.Host

/-- Four runs of digits with dots between them, whether or not they are numbers of a host. -/
def looksLikeQuad (cs : List Char) : Bool :=
  let parts := Text.splitAt '.' cs
  parts.length == 4 && parts.all fun p => !p.isEmpty && p.all Text.isDigit

/-- A number below 256, without zeros in front. -/
def isQuarter (cs : List Char) : Bool :=
  1 ≤ cs.length && cs.length ≤ 3 && cs.all Text.isDigit && Text.digitsNumber cs ≤ 255 &&
    (cs.length == 1 || cs.head? != some '0')

/-- Four numbers. -/
def isQuad (cs : List Char) : Bool :=
  let parts := Text.splitAt '.' cs
  parts.length == 4 && parts.all isQuarter

/-- A group of up to four hexadecimal digits. -/
def isGroup (cs : List Char) : Bool :=
  1 ≤ cs.length && cs.length ≤ 4 && (Text.numeral? 16 cs).isSome

/-- How many groups stand between colons, if nothing else does; four numbers at the end count as
two groups. -/
def groupCount? (cs : List Char) : Option Nat :=
  if cs.isEmpty then some 0
  else
    let parts := Text.splitAt ':' cs
    let lead := parts.dropLast
    let last := parts.getLast?.getD []
    if !lead.all isGroup then none
    else if isGroup last then some (lead.length + 1)
    else if isQuad last then some (lead.length + 2)
    else none

/-- Eight groups, or fewer with a gap. -/
def areGroups (cs : List Char) : Bool :=
  match Text.cutAt? "::".toList cs with
  | none => groupCount? cs == some 8
  | some (before, behind) =>
    match groupCount? before, groupCount? behind with
    | some m, some n => m + n ≤ 7 && !before.contains '.'
    | _, _ => false

/-- Groups, and the part of the network in which they are meant. -/
def isGrouped (cs : List Char) : Bool :=
  match Text.cutAt? ['%'] cs with
  | none => areGroups cs
  | some (number, part) => areGroups number && !part.isEmpty && !part.contains '%'

/-- What stands in brackets, if everything does. -/
def inBrackets? (cs : List Char) : Option (List Char) :=
  match cs with
  | '[' :: rest => if rest.getLast? == some ']' then some rest.dropLast else none
  | _ => none

end ApiOutline.Web.Host
