/-
Addresses on the network.

An address is taken apart into its components, and each of them is put into a normal form, in which
the address is asked for and reported: scheme and host in small letters, no port where it is the
usual one, no detours in the path, and characters that cannot stand in an address written as octets
behind percent signs. Not every text is an address. Components may be replaced later; they are
checked again then, and what has been put into normal form once may be put into it twice.
-/
import ApiOutline.Decimal.Written
import ApiOutline.Fault
import ApiOutline.Web.Host

set_option autoImplicit false

namespace ApiOutline.Web

/-- An address in normal form. -/
structure Address where
  scheme : String
  userInfo : String
  host : String
  port : Option Int
  path : String
  query : Option String
  fragment : Option String
  deriving DecidableEq, Repr

namespace Address

/-- Why a text is no address. -/
inductive Defect where
  | tooLong
  /-- Control characters cannot even be written as octets. Places are counted from zero. -/
  | control (c : Char) (place : Nat)
  | host (d : Host.Defect)
  | badPort (port : String)
  | pathWithoutSlash
  /-- A path that would be read as a host. -/
  | pathLikeHost
  /-- A path that would be read as the end of a scheme. -/
  | pathLikeScheme
  /-- A component that was to replace another. -/
  | longPart (name : String)
  | controlInPart (name : String) (c : Char) (place : Nat)
  deriving DecidableEq, Repr

def Defect.message : Defect → String
  | .tooLong => "URL too long"
  | .control c place =>
    "Invalid non-printable ASCII character in URL, " ++ Text.quoted (String.ofList [c]) ++
      " at position " ++ Decimal.digitText place ++ "."
  | .host d => d.message
  | .badPort port => "Invalid port: " ++ Text.quoted port
  | .pathWithoutSlash => "For absolute URLs, path must be empty or begin with '/'"
  | .pathLikeHost => "Relative URLs cannot have a path starting with '//'"
  | .pathLikeScheme => "Relative URLs cannot have a path starting with ':'"
  | .longPart name => "URL component '" ++ name ++ "' too long"
  | .controlInPart name c place =>
    "Invalid non-printable ASCII character in URL " ++ name ++ " component, " ++
      Text.quoted (String.ofList [c]) ++ " at position " ++ Decimal.digitText place ++ "."

/-! ## Characters -/

/-- Visible characters of ASCII but for some. -/
def allowedBut (excluded : String) (c : Char) : Bool :=
  0x20 < c.toNat && c.toNat < 0x7F && !excluded.toList.contains c

def inFragment (c : Char) : Bool := allowedBut "\x22<>\x60" c

def inQuery (c : Char) : Bool := allowedBut "\x22#<>" c

def inPath (c : Char) : Bool := allowedBut "\x22#<>?\x60\x7b\x7d" c

def inUserInfo (c : Char) : Bool := allowedBut "\x22#<>?\x60\x7b\x7d/;=@[\\]^|" c

def isControl (c : Char) : Bool := c.toNat < 0x20 || c.toNat == 0x7F

/-- The first control character of a text, and its place. -/
def control? (s : String) : Option (Char × Nat) :=
  let cs := s.toList
  match cs.find? isControl with
  | some c => some (c, (cs.takeWhile fun d => !isControl d).length)
  | none => none

/-! ## Components as they are written -/

/-- The components of an address before they are put into normal form. -/
structure Parts where
  scheme : String
  userInfo : String
  host : String
  port : String
  path : String
  query : Option String
  fragment : Option String
  deriving DecidableEq, Repr

/-- Everything in front of a character that satisfies `p`, and everything from there on. -/
def cutBefore (p : Char → Bool) (cs : List Char) : List Char × List Char :=
  (cs.takeWhile fun c => !p c, cs.dropWhile fun c => !p c)

/-- A scheme and a colon at the front. -/
def takeScheme (cs : List Char) : List Char × List Char :=
  match cs with
  | c :: _ =>
    if c.isAlpha then
      match cutBefore (fun c => !(c.isAlphanum || "+.-".toList.contains c)) cs with
      | (scheme, ':' :: rest) => (scheme, rest)
      | _ => ([], cs)
    else if c == ':' then ([], cs.drop 1)
    else ([], cs)
  | [] => ([], [])

/-- What stands behind two slashes at the front, up to the path. -/
def takeAuthority (cs : List Char) : List Char × List Char :=
  match cs with
  | '/' :: '/' :: rest => cutBefore (fun c => c == '/' || c == '?' || c == '#') rest
  | _ => ([], cs)

/-- What stands in front of the last `@`, and what stands behind it. -/
def takeUserInfo (cs : List Char) : List Char × List Char :=
  match Text.cutAt? ['@'] cs.reverse with
  | some (behind, info) => (info.reverse, behind.reverse)
  | none => ([], cs)

/-- A host in front of its port. A host in brackets may contain colons. -/
def takeHost (cs : List Char) : List Char × List Char :=
  match cs with
  | '[' :: _ =>
    match Text.cutAt? [']'] cs.reverse with
    | some (behind, inside) => (inside.reverse ++ [']'], behind.reverse)
    | none => cutBefore (· == ':') cs
  | _ => cutBefore (· == ':') cs

/-- The components of an address. Every text has them. -/
def Parts.ofText (s : String) : Parts :=
  let (scheme, rest) := takeScheme s.toList
  let (authority, rest) := takeAuthority rest
  let (path, rest) := cutBefore (fun c => c == '?' || c == '#') rest
  let (query, rest) : Option (List Char) × List Char :=
    match rest with
    | '?' :: rest =>
      let (query, rest) := cutBefore (· == '#') rest
      (some query, rest)
    | rest => (none, rest)
  let fragment : Option (List Char) :=
    match rest with
    | '#' :: rest => some rest
    | _ => none
  let (userInfo, authority) := takeUserInfo authority
  let (host, behind) := takeHost authority
  let port := match behind with
    | ':' :: port => port
    | port => port
  { scheme := String.ofList scheme
    userInfo := String.ofList userInfo
    host := String.ofList host
    port := String.ofList port
    path := String.ofList path
    query := query.map String.ofList
    fragment := fragment.map String.ofList }

/-! ## Normal form -/

def usualPort? : String → Option Int
  | "ftp" => some 21
  | "http" | "ws" => some 80
  | "https" | "wss" => some 443
  | _ => none

/-- A port is an integer. Single underscores may stand between its digits. -/
def portNumber? (s : String) : Option Int :=
  let cs := s.toList
  let pieces := Text.splitAt '_' (Decimal.sign (Decimal.trimmed cs)).2
  let count := pieces.foldl (fun n p => n + p.length) 0
  if pieces.all (fun p => !p.isEmpty && p.all Text.isDigit) && count ≤ ApiOutline.Fault.digitLimit
  then Decimal.integer? 10 (cs.filter (· != '_'))
  else none

/-- The port, if it is not the usual one. The usual one is only known by its scheme in small
letters. -/
def normalPort (scheme port : String) : Except Defect (Option Int) :=
  if port == "" then .ok none
  else match portNumber? port with
    | some n => .ok (if usualPort? scheme = some n then none else some n)
    | none => .error (.badPort port)

/-- A path without single dots and without detours. -/
def normalPath (path : String) : String :=
  let parts := (Text.splitAt '/' path.toList).map String.ofList
  if parts.contains "." || parts.contains ".." then
    "/".intercalate <| parts.foldl
      (fun done part =>
        if part == "." then done
        else if part == ".." then if done == [""] then done else done.dropLast
        else done ++ [part]) []
  else path

/-- Is a path one that can stand where it stands? Behind a host it begins with a slash, and where
nothing is in front of it it does not look like something else. -/
def checkPath (hasScheme hasAuthority : Bool) (path : String) : Except Defect Unit :=
  let cs := path.toList
  if hasAuthority && !cs.isEmpty && cs.head? != some '/' then .error .pathWithoutSlash
  else if !hasScheme && !hasAuthority && Text.beginsWith ['/', '/'] cs then .error .pathLikeHost
  else if !hasScheme && !hasAuthority && cs.head? == some ':' then .error .pathLikeScheme
  else .ok ()

/-- The address that consists of some components. -/
def Parts.address (p : Parts) : Except Defect Address := do
  let userInfo := Percent.encode inUserInfo p.userInfo
  let host ← (Host.normal p.host).mapError .host
  let port ← normalPort p.scheme p.port
  let hasScheme := p.scheme != ""
  let hasAuthority := userInfo != "" || host != "" || port.isSome
  checkPath hasScheme hasAuthority p.path
  let path := if hasScheme || hasAuthority then normalPath p.path else p.path
  return {
    scheme := String.ofList (p.scheme.toList.map Char.toLower)
    userInfo, host, port
    path := Percent.encode inPath path
    query := p.query.map (Percent.encode inQuery)
    fragment := p.fragment.map (Percent.encode inFragment) }

/-- Addresses, and parts of them, have this many characters at most. -/
def lengthLimit : Nat := 65536

/-- The address that a text writes. -/
def ofText (s : String) : Except Defect Address :=
  if lengthLimit < s.length then .error .tooLong
  else match control? s with
    | some (c, place) => .error (.control c place)
    | none => (Parts.ofText s).address

/-! ## Putting together -/

/-- Host and port, as they are written. -/
def location (a : Address) : String :=
  Host.written a.host ++ (a.port.map fun n => ":" ++ integerText n).getD ""

/-- Who and where, without what. -/
def authority (a : Address) : String :=
  (if a.userInfo == "" then "" else a.userInfo ++ "@") ++ a.location

/-- An address as a text. -/
def text (a : Address) : String :=
  (if a.scheme == "" then "" else a.scheme ++ ":") ++
    (if a.authority == "" then "" else "//" ++ a.authority) ++
    a.path ++
    (a.query.map ("?" ++ ·)).getD "" ++
    (a.fragment.map ("#" ++ ·)).getD ""

/-- Does the address say where to go? -/
def isAbsolute (a : Address) : Bool :=
  a.scheme != "" && a.host != ""

/-- What stands behind the path and the query, with its characters for themselves. -/
def shownFragment (a : Address) : String :=
  (a.fragment.map Percent.decode).getD ""

/-! ## Replacing components -/

/-- The components of an address in normal form. -/
def parts (a : Address) : Parts where
  scheme := a.scheme
  userInfo := a.userInfo
  host := Host.written a.host
  port := (a.port.map integerText).getD ""
  path := a.path
  query := a.query
  fragment := a.fragment

/-- Is a text one that can become a component? -/
def checkPart (name text : String) : Except Defect Unit :=
  if lengthLimit < text.length then .error (.longPart name)
  else match control? text with
    | some (c, place) => .error (.controlInPart name c place)
    | none => .ok ()

/-- The address that consists of some components, those of another one with some replaced. -/
def revised (a : Address) (p : Parts) : Except Defect Address := do
  checkPart "scheme" p.scheme
  checkPart "authority" a.authority
  checkPart "path" p.path
  checkPart "query" (p.query.getD "")
  checkPart "fragment" (p.fragment.getD "")
  checkPart "host" p.host
  p.address

/-- The address at another host. -/
def withHost (a : Address) (host : String) : Except Defect Address :=
  a.revised { a.parts with host := Host.written host }

/-- The address with another fragment. -/
def withFragment (a : Address) (fragment : String) : Except Defect Address :=
  a.revised { a.parts with fragment := some fragment }

end Address

end ApiOutline.Web
