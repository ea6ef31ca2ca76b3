/-
Answers from the network.

An answer has a status, headers and a body. The status says whether there is something to be read,
whether to go on elsewhere, or what went wrong; the usual phrase for it is told along with it.
-/
import ApiOutline.Packing.Wrapper
import ApiOutline.Web.ContentType

set_option autoImplicit false

namespace ApiOutline.Web

structure Answer where
  status : Nat
  headers : List (String × String)
  body : List UInt8

/-- The usual phrases. -/
def phrases : List (Nat × String) :=
  [(100, "Continue"), (101, "Switching Protocols"), (102, "Processing"), (103, "Early Hints"),
    (200, "OK"), (201, "Created"), (202, "Accepted"), (203, "Non-Authoritative Information"),
    (204, "No Content"), (205, "Reset Content"), (206, "Partial Content"), (207, "Multi-Status"),
    (208, "Already Reported"), (226, "IM Used"),
    (300, "Multiple Choices"), (301, "Moved Permanently"), (302, "Found"), (303, "See Other"),
    (304, "Not Modified"), (305, "Use Proxy"), (307, "Temporary Redirect"),
    (308, "Permanent Redirect"),
    (400, "Bad Request"), (401, "Unauthorized"), (402, "Payment Required"), (403, "Forbidden"),
    (404, "Not Found"), (405, "Method Not Allowed"), (406, "Not Acceptable"),
    (407, "Proxy Authentication Required"), (408, "Request Timeout"), (409, "Conflict"),
    (410, "Gone"), (411, "Length Required"), (412, "Precondition Failed"),
    (413, "Request Entity Too Large"), (414, "Request-URI Too Long"),
    (415, "Unsupported Media Type"), (416, "Requested Range Not Satisfiable"),
    (417, "Expectation Failed"), (418, "I\x27m a teapot"), (421, "Misdirected Request"),
    (422, "Unprocessable Entity"), (423, "Locked"), (424, "Failed Dependency"),
    (425, "Too Early"), (426, "Upgrade Required"), (428, "Precondition Required"),
    (429, "Too Many Requests"), (431, "Request Header Fields Too Large"),
    (451, "Unavailable For Legal Reasons"),
    (500, "Internal Server Error"), (501, "Not Implemented"), (502, "Bad Gateway"),
    (503, "Service Unavailable"), (504, "Gateway Timeout"), (505, "HTTP Version Not Supported"),
    (506, "Variant Also Negotiates"), (507, "Insufficient Storage"), (508, "Loop Detected"),
    (510, "Not Extended"), (511, "Network Authentication Required")]

/-- The phrase for a status; most numbers have none. -/
def phrase (status : Nat) : String :=
  (phrases.lookup status).getD ""

/-- What a status means, by its first digit. -/
def statusKind (status : Nat) : String :=
  match status / 100 with
  | 1 => "Informational response"
  | 3 => "Redirect response"
  | 4 => "Client error"
  | 5 => "Server error"
  | _ => "Invalid status code"

def isSuccess (status : Nat) : Bool := 200 ≤ status && status ≤ 299

/-- Statuses that send one elsewhere. -/
def isRedirect (status : Nat) : Bool := [301, 302, 303, 307, 308].contains status

namespace Answer

/-- A header, by its name in whatever case. What several headers of one name say is put
together. -/
def header? (a : Answer) (name : String) : Option String :=
  match a.headers.filter fun h => h.1.toList.map Char.toLower == name.toList.map Char.toLower with
  | [] => none
  | found => some (", ".intercalate (found.map Prod.snd))

/-- The first text in the headers that is no ASCII. Headers have to be. -/
def strangeHeader? (a : Answer) : Option String :=
  (a.headers.flatMap fun h => [h.1, h.2]).find? fun s => s.toList.any fun c => 0x80 ≤ c.toNat

/-- Ways in which a body may be packed. -/
inductive Coding where
  | long
  | short
  deriving DecidableEq, Repr

def coding? : String → Option Coding
  | "gzip" => some .long
  | "deflate" => some .short
  | _ => none

/-- How the body is packed, in the order in which it was. Ways that are not known are none. -/
def codings (a : Answer) : List Coding :=
  let own := a.headers.filter fun h =>
    h.1.toList.map Char.toLower == "content-encoding".toList
  own.flatMap fun h => (Text.splitAt ',' h.2.toList).filterMap fun piece =>
    coding? (String.ofList ((Text.strip Text.isBlank piece).map Char.toLower))

/-- The octets that were packed in some way. -/
def Coding.undo (octets : List UInt8) : Coding → Except Packing.Defect (List UInt8)
  | .long => Packing.unzip octets
  | .short => Packing.unpack octets

/-- The answer with its body unpacked. What was done last is undone first, and no body at all is
not packed. -/
def unpacked (a : Answer) : Except Packing.Defect Answer := do
  if a.body.isEmpty then return a
  return { a with body := ← a.codings.reverse.foldlM Coding.undo a.body }

/-- Where an answer sends one. -/
def redirect? (a : Answer) : Option String :=
  if isRedirect a.status then a.header? "location" else none

/-- Why the body of an answer is no text. -/
inductive BodyDefect where
  | contentType (d : ContentType.Defect)
  | undecodable (d : Text.Undecodable)
  deriving DecidableEq, Repr

/-- The encoding that an answer names. Where none is named that is known, it is UTF-8. -/
def encoding (a : Answer) : Except ContentType.Defect Text.Encoding := do
  match a.header? "content-type" with
  | none => return .utf8
  | some kind =>
    let charset ← ContentType.charset? kind
    return (charset.bind Text.Encoding.named?).getD .utf8

/-- The body as a text. Without a body nothing is decoded. -/
def text (a : Answer) : Except BodyDefect String :=
  if a.body.isEmpty then .ok ""
  else do
    let e ← a.encoding.mapError .contentType
    (e.decode a.body).mapError .undecodable

end Answer

end ApiOutline.Web
