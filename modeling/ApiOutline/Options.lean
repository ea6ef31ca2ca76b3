/-
What a caller may say about decoding.

Nothing here is checked when it is said. A name or an import that is no text is refused when the
head of the outline is put together, a host when its scheme is looked for, and the two switches
take anything and count as on when it counts as present.
-/
import ApiOutline.Value.Access

set_option autoImplicit false

namespace ApiOutline

/-- The options of decoding: `DecodeOptions`, with any values in its fields. -/
structure Options where
  /-- The name of the module that the outline is for. -/
  moduleName : Value := .null
  /-- The service of operations without a tag. -/
  serviceName : Value := .null
  imports : Value := .null
  /-- The host, where the description names none. -/
  host : Value := .null
  /-- The scheme, where the description names none. -/
  schema : Value := .null
  /-- Is a reference that leads nowhere refused instead of passed over? -/
  strictRefs : Value := .bool false
  /-- Are parameters kept that a proxy is to fill in? -/
  proxyHeaders : Value := .bool false

namespace Options

instance : Inhabited Options := ⟨{}⟩

/-- Options with the one of that name set. There are seven names. -/
def set (name : String) (v : Value) (o : Options) : Except Fault Options :=
  match name with
  | "module_name" => .ok { o with moduleName := v }
  | "service_name" => .ok { o with serviceName := v }
  | "imports" => .ok { o with imports := v }
  | "host" => .ok { o with host := v }
  | "schema" => .ok { o with schema := v }
  | "strict_refs" => .ok { o with strictRefs := v }
  | "proxy_headers" => .ok { o with proxyHeaders := v }
  | _ => .error .wrongType

/-- Options by name, the others as they are by default. -/
def ofEntries (entries : List (Scalar × Value)) : Except Fault Options :=
  entries.foldlM (fun o (name, v) => o.set name.text v) {}

end Options

end ApiOutline
