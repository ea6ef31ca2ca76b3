/-
Asking the network.

The network is known by its answers: an address either has one or cannot be reached. Answers that
send one elsewhere are followed, up to a limit; where they send one is found from the address that
was asked. Every answer is noted, so that it can be told afterwards what was asked.
-/
import ApiOutline.Web.Address
import ApiOutline.Web.Answer
import ApiOutline.Web.Reference

set_option autoImplicit false

namespace ApiOutline.Web

/-- What every address answers. -/
abbrev Network := List (String × Answer)

/-- An address that was asked, and the status of its answer. -/
structure Exchange where
  address : String
  status : Nat
  deriving DecidableEq, Repr

def Exchange.message (e : Exchange) : String :=
  "HTTP Request: GET " ++ e.address ++ " \x22HTTP/1.1 " ++ Decimal.digitText e.status ++ " " ++
    phrase e.status ++ "\x22"

inductive Fault where
  /-- The text is no address. -/
  | badAddress (d : Address.Defect)
  | unreachable
  | tooManyRedirects
  /-- An answer sends one to what is no address. -/
  | badRedirect (d : Address.Defect)
  /-- A host between which and another an answer sends one has no form for people. -/
  | badName (d : Host.NameDefect)
  /-- A host or a header that has to be ASCII. -/
  | notAscii (text : String)
  /-- A body that was packed in another way than it says. -/
  | badPacking (d : Packing.Defect)
  /-- An answer from an address without a scheme. -/
  | noScheme (address : String)
  | badBody (d : Answer.BodyDefect)
  /-- An answer with a status other than success. -/
  | refused (status : Nat) (address : String)
  deriving DecidableEq, Repr

/-- The characters of a text that are no ASCII, up to the first one that is, and their place. -/
def strangeRun (s : String) : Nat × List Char :=
  let isStrange (c : Char) : Bool := 0x80 ≤ c.toNat
  let lead := s.toList.takeWhile fun c => !isStrange c
  (lead.length, (s.toList.drop lead.length).takeWhile isStrange)

/-- A character by its number. -/
def numberEscape (c : Char) : String :=
  if c.toNat < 0x100 then "\\x" ++ Text.hexText 2 c.toNat
  else if c.toNat < 0x10000 then "\\u" ++ Text.hexText 4 c.toNat
  else "\\U" ++ Text.hexText 8 c.toNat

/-- What is said about a text that is no ASCII. -/
def strangeMessage (s : String) : String :=
  let what := match strangeRun s with
    | (place, [c]) =>
      "character '" ++ numberEscape c ++ "' in position " ++ Decimal.digitText place
    | (place, run) =>
      "characters in position " ++ Decimal.digitText place ++ "-" ++
        Decimal.digitText (place + run.length - 1)
  "'ascii' codec can't encode " ++ what ++ ": ordinal not in range(128)"

def Fault.message : Fault → String
  | .badAddress d => d.message
  | .unreachable => "connection refused"
  | .tooManyRedirects => "Exceeded maximum allowed redirects."
  | .badRedirect d => "Invalid URL in location header: " ++ d.message ++ "."
  | .badName d => d.message
  | .notAscii text => strangeMessage text
  | .badPacking d => d.message
  | .noScheme address => "unknown url type: " ++ Text.quoted address
  | .badBody (.contentType _) => ""
  | .badBody (.undecodable d) => d.message
  | .refused status address =>
    statusKind status ++ " '" ++ Decimal.digitText status ++ " " ++ phrase status ++
      "' for url '" ++ address ++ "'\nFor more information check: https:" ++
      "//developer.mozilla.org/en-US/docs/Web/HTTP/Status/" ++ Decimal.digitText status

/-- How often an answer may send one elsewhere. -/
def redirectLimit : Nat := 20

/-- Does an address begin with a scheme, or with something that looks like one from afar? -/
def hasScheme (address : String) : Bool :=
  match Address.cutBefore (fun c => c == '/' || c == ':') address.toList with
  | (_ :: _, ':' :: _) => true
  | _ => false

/-- A host as people write it. -/
def shownHost (a : Address) : Except Fault String :=
  (Host.shown a.host).mapError .badName

/-- Are two addresses at one place? Hosts are compared as people write them, and the schemes are
looked at first. -/
def checkHosts (base next : Address) : Except Fault Unit := do
  let (first, second) := if next.scheme == base.scheme then (next, base) else (base, next)
  let _ ← shownHost first
  let _ ← shownHost second

/-- Where a redirect leads from an address. A scheme without a host stays at the host, anything
less is a reference, and a fragment goes along. -/
def redirected (base : Address) (location : String) : Except Fault Address := do
  let a ← (Address.ofText location).mapError .badRedirect
  let a ← if a.scheme != "" then do
      let host ← shownHost a
      if host == "" then (a.withHost (← shownHost base)).mapError .badAddress else pure a
    else pure a
  let a ← if a.isAbsolute then pure a
    else (Address.ofText (Reference.resolve base.text a.text)).mapError .badAddress
  let a ← if base.shownFragment != "" && a.shownFragment == "" then
      (a.withFragment base.shownFragment).mapError .badAddress
    else pure a
  checkHosts base a
  return a

/-- An answer from an address, when it can be taken: its headers are ASCII, its body can be
unpacked, and the address has a scheme. -/
def received (address : String) (answer : Answer) : Except Fault Answer :=
  match answer.strangeHeader? with
  | some text => .error (.notAscii text)
  | none => do
    let unpacked ← answer.unpacked.mapError .badPacking
    if hasScheme address then return unpacked else throw (.noScheme address)

/-- The answer to a request, redirects followed as long as there is fuel. -/
def follow (network : Network) : (fuel : Nat) → List Exchange → Address →
    List Exchange × Except Fault String
  | fuel, done, a =>
    let address := a.text
    match network.lookup address with
    | none => (done, .error .unreachable)
    | some answer =>
      match received address answer with
      | .error f => (done, .error f)
      | .ok answer =>
        let done := done ++ [⟨address, answer.status⟩]
        match answer.redirect? with
        | some location =>
          match redirected a location, fuel with
          | .error f, _ => (done, .error f)
          | .ok _, 0 => (done, .error .tooManyRedirects)
          | .ok next, fuel + 1 => follow network fuel done next
        | none =>
          if isSuccess answer.status then (done, answer.text.mapError .badBody)
          else (done, .error (.refused answer.status address))

/-- The address that is asked for. What has no scheme or no host is a path from nowhere. -/
def asked (a : Address) : Address :=
  if a.isAbsolute then a
  else
    { scheme := "", userInfo := "", host := "", port := none
      path := String.ofList ('/' :: a.path.toList.dropWhile (· == '/'))
      query := a.query
      fragment := none }

/-- What was asked, and the text at an address. -/
def fetch (network : Network) (location : String) : List Exchange × Except Fault String :=
  match Address.ofText location with
  | .error d => ([], .error (.badAddress d))
  | .ok a =>
    let a := asked a
    if a.location.toList.any fun c => 0x80 ≤ c.toNat then ([], .error (.notAscii a.location))
    else follow network redirectLimit [] a

end ApiOutline.Web
