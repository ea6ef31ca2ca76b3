/-
Getting hold of a description.

A description is in a file or at an address on the network, and it is written in JSON or in YAML.
Which of the two is told by its first character that is no blank: an opening brace means JSON.
What is read has to be an object.
-/
import ApiOutline.Files.Disk
import ApiOutline.Json.Reader
import ApiOutline.Text.Lines
import ApiOutline.Web.Fetch
import ApiOutline.Yaml.Document

set_option autoImplicit false

namespace ApiOutline

namespace Loading

/-- Why no description could be had. -/
inductive Fault where
  /-- Neither an address nor a file. -/
  | notFound (location : String)
  | notAnObject (location : String)
  /-- The location is no text. -/
  | noLocation
  | file (f : Files.Fault)
  /-- A file that is no UTF-8. -/
  | notText
  | web (f : Web.Fault)
  | json (m : Json.Malformed)
  | yaml (f : Yaml.Failure)

def Fault.message : Fault → String
  | .notFound location =>
    "Не удалось загрузить спецификацию из " ++ location ++ ". Проверьте URL или путь к файлу."
  | .notAnObject location => "Спецификация " ++ location ++ " не является объектом"
  | .noLocation => ""
  | .file f => f.message
  | .notText => "octets that are no UTF-8"
  | .web f => f.message
  | .json m => m.message
  | .yaml f => f.message

/-! ## Texts -/

/-- Is a location an address on the network? -/
def isAddress (location : String) : Bool :=
  Text.beginsWith "http://".toList location.toList ||
    Text.beginsWith "https://".toList location.toList

/-- The text of a file. -/
def readFile (disk : Files.Disk) (path : String) : Except Fault String := do
  let octets ← (disk.read path).mapError .file
  match Text.decodeUtf8? octets with
  | some s => return String.ofList (Text.unifyBreaks s.toList)
  | none => throw .notText

/-- What was asked of the network, and the text at a location. -/
def readText (disk : Files.Disk) (network : Web.Network) (location : String) :
    List Web.Exchange × Except Fault String :=
  if isAddress location then
    let (asked, r) := Web.fetch network location
    (asked, r.mapError .web)
  else if disk.has location then ([], readFile disk location)
  else ([], .error (.notFound location))

/-! ## Values -/

/-- Is a text JSON? It is taken for that when a brace comes first, behind blanks. -/
def looksLikeJson (text : String) : Bool :=
  (text.toList.dropWhile Text.isBlank).head? == some '\x7b'

/-- The value that a text writes. -/
def parse (text : String) : Except Fault Value :=
  if looksLikeJson text then (Json.parse text).mapError .json
  else (Yaml.parse text).mapError .yaml

/-- A value that has to be an object. -/
def asObject (location : String) (v : Value) : Except Fault Value :=
  match v with
  | .object es => .ok (.object es)
  | _ => .error (.notAnObject location)

end Loading

/-- What was asked of the network, and the description at a location: `load_spec`. -/
def load (disk : Files.Disk) (network : Web.Network) (location : Value) :
    List Web.Exchange × Except Loading.Fault Value :=
  match location with
  | .scalar (.str s) =>
    let (asked, text) := Loading.readText disk network s
    (asked, (text.bind Loading.parse).bind (Loading.asObject s))
  | _ => ([], .error .noLocation)

end ApiOutline
