/-
Hosts.

A host is a number, in one of two notations, or a name. Its normal form is the one under which the
network knows it: numbers without brackets, names of ASCII in small letters, other names coded.
-/
import ApiOutline.Text.Letter
import ApiOutline.Web.Host.Name
import ApiOutline.Web.Host.Numeric
import ApiOutline.Web.Percent

set_option autoImplicit false

namespace ApiOutline.Web.Host

/-- Why a text is no host. -/
inductive Defect where
  | badQuad (host : String)
  | badGroups (host : String)
  | badName (host : String)
  deriving DecidableEq, Repr

def Defect.message : Defect → String
  | .badQuad host => "Invalid IPv4 address: " ++ Text.quoted host
  | .badGroups host => "Invalid IPv6 address: " ++ Text.quoted host
  | .badName host => "Invalid IDNA hostname: " ++ Text.quoted host

/-- Characters that stand for themselves in a name of ASCII. -/
def isPlain (c : Char) : Bool :=
  "!$&\x27()*+,;=\x22\x60\x7b\x7d%|\\".toList.contains c

/-- The normal form of a host. -/
def normal (s : String) : Except Defect String :=
  let cs := s.toList
  if looksLikeQuad cs then if isQuad cs then .ok s else .error (.badQuad s)
  else match inBrackets? cs with
    | some number =>
      if isGrouped number then .ok (String.ofList number) else .error (.badGroups s)
    | none =>
      let small := Text.lowerChars cs
      if cs.all Text.Punycode.isAscii then .ok (Percent.encode isPlain (String.ofList small))
      else match codedName small with
        | .ok name => .ok (String.ofList name)
        | .error _ => .error (.badName s)

/-- A host in normal form as it is written in an address. -/
def written (host : String) : String :=
  if host.toList.contains ':' then "[" ++ host ++ "]" else host

/-- A host in normal form as people write it. -/
def shown (host : String) : Except NameDefect String :=
  if Text.beginsWith announcement host.toList then (shownName host.toList).map String.ofList
  else .ok host

end ApiOutline.Web.Host
