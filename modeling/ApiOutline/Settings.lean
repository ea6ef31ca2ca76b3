/-
Settings.

Settings say what to decode, where the outline goes, and with which options. They are kept in a
TOML file between runs, and what is given on a command line counts before what stands in the file.
A file that is not there, cannot be read or is no TOML gives no settings; only octets that are no
UTF-8 are a fault.
-/
import ApiOutline.Files.Disk
import ApiOutline.Options
import ApiOutline.Text.Lines
import ApiOutline.Toml.Reader
import ApiOutline.Toml.Writer

set_option autoImplicit false

namespace ApiOutline

/-- What can be set: the eight fields of `DecoderConfig`. A file may hold any values. -/
structure Settings where
  /-- Where the description is. -/
  spec : Value := .null
  /-- The file that the outline goes to. -/
  output : Value := .null
  moduleName : Value := .null
  serviceName : Value := .null
  host : Value := .null
  schema : Value := .null
  strictRefs : Value := .bool false
  proxyHeaders : Value := .bool false

namespace Settings

open Value (Entries)

/-- The file in which settings are looked for if nothing else is said. -/
def defaultPath : String := "swagger.toml"

/-! ## By name -/

/-- The settings with the one of that name set. There are eight names. -/
def set? (name : String) (v : Value) (s : Settings) : Option Settings :=
  match name with
  | "spec" => some { s with spec := v }
  | "output" => some { s with output := v }
  | "module_name" => some { s with moduleName := v }
  | "service_name" => some { s with serviceName := v }
  | "host" => some { s with host := v }
  | "schema" => some { s with schema := v }
  | "strict_refs" => some { s with strictRefs := v }
  | "proxy_headers" => some { s with proxyHeaders := v }
  | _ => none

/-- The settings as an object, in the order in which they are written. -/
def entries (s : Settings) : Entries :=
  [(.str "spec", s.spec), (.str "output", s.output), (.str "module_name", s.moduleName),
    (.str "service_name", s.serviceName), (.str "host", s.host), (.str "schema", s.schema),
    (.str "strict_refs", s.strictRefs), (.str "proxy_headers", s.proxyHeaders)]

/-- Settings by name, the others as they are by default. A name that is none of theirs fails. -/
def ofEntries (es : Entries) : Except Fault Settings :=
  es.foldlM (fun s (k, v) =>
    match s.set? k.text v with
    | some s => .ok s
    | none => .error .wrongType) {}

/-- Settings by name, the others as they are by default. Other names are passed over. -/
def ofKnown (es : Entries) : Settings :=
  es.foldl (fun s (k, v) => (s.set? k.text v).getD s) {}

/-! ## What they are for -/

/-- The settings with others given on top of them, which count where they are present, as
`merge_with_args` puts them together. A switch that is given is on. Proxy headers cannot be given.
-/
def merge (given s : Settings) : Settings where
  spec := given.spec.orElse s.spec
  output := given.output.orElse s.output
  moduleName := given.moduleName.orElse s.moduleName
  serviceName := given.serviceName.orElse s.serviceName
  host := given.host.orElse s.host
  schema := given.schema.orElse s.schema
  strictRefs := if given.strictRefs.truthy then .bool true else s.strictRefs
  proxyHeaders := s.proxyHeaders

/-- The options of decoding among the settings: `to_options`. -/
def options (s : Settings) : Options where
  moduleName := s.moduleName
  serviceName := s.serviceName
  host := s.host
  schema := s.schema
  strictRefs := s.strictRefs
  proxyHeaders := s.proxyHeaders

/-! ## In files -/

/-- Settings as TOML. -/
def text (s : Settings) : String :=
  Toml.text s.entries

/-- The settings that a text writes. -/
def ofText? (text : String) : Option Settings :=
  (Toml.parse text).map ofKnown

/-- The file with the settings, as `from_file` chooses it: the one in `folder` if there is one,
and otherwise `path`. -/
def choose (disk : Files.Disk) (path folder : String) : String :=
  let inside := Files.Path.join folder defaultPath
  if folder != "" && disk.isFolder folder && disk.has inside then inside else path

/-- A file of settings that is no UTF-8. -/
structure NotText where
  path : String
  deriving DecidableEq, Repr

/-- The settings in a file, if it is there and holds some: `from_file`. A file that cannot be read
or writes no table has none; one that is no text is a fault, which nobody catches. -/
def load (disk : Files.Disk) (path folder : String) : Except NotText (Option Settings) :=
  let path := choose disk path folder
  match disk.read path with
  | .error _ => .ok none
  | .ok octets =>
    match Text.decodeUtf8? octets with
    | none => .error ⟨path⟩
    | some s => .ok (ofText? (String.ofList (Text.unifyBreaks s.toList)))

/-- The disk with the settings in a file, as `save_to_file` writes them. -/
def save (disk : Files.Disk) (path : String) (s : Settings) : Except Files.Fault Files.Disk :=
  disk.writeText path s.text

/-- Giving nothing changes nothing. -/
theorem merge_nothing (s : Settings) : merge {} s = s := by
  simp [merge, Value.orElse, Value.truthy]

end Settings

end ApiOutline
