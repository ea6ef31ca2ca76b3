/-
The outline as a document.

An outline is handed out as a value that JSON can write. Its own fields come first, in a fixed
order and under fixed names; what the description said beyond them follows as it stood. Values
that JSON does not know are put into texts: days and moments in their usual form, octets as the
text they write, keys as what they are called, rows and sets as lists. A number that is none becomes
null. Octets that write no text have no such form, and neither have values without an end or with
too many levels.
-/
import ApiOutline.Limits
import ApiOutline.Outline.Basic
import ApiOutline.Text.Utf8

set_option autoImplicit false

namespace ApiOutline

/-! ## Values -/

/-- The text that octets write. -/
def octetText (octets : List UInt8) : Except Fault String :=
  match Text.decodeUtf8? octets with
  | some s => .ok s
  | none => .error .undecodable

/-- A scalar that JSON knows. -/
def Scalar.form : Scalar → Except Fault Scalar
  | .float x => .ok (if x.isFinite then .float x else .null)
  | .bytes bs => (octetText bs).map .str
  | .date d => .ok (.str d.text)
  | .moment m => .ok (.str m.zuluText)
  | s => .ok s

/-- A key as a text. Numbers that are none are called like null. -/
def Scalar.keyForm : Scalar → Except Fault String
  | .str s => .ok s
  | .bool b => .ok (if b then "true" else "false")
  | .float x => .ok (if x.isFinite then (Scalar.float x).text else Scalar.null.text)
  | .bytes bs => octetText bs
  | .moment m => .ok m.zuluText
  | .int n => do
    (Scalar.int n).checkText
    return integerText n
  | k => .ok k.text

namespace Value

/-- Values are written on this many levels. -/
def levelLimit : Nat := 254

/-- Is there a level of that number? Levels are counted from one. -/
def checkLevel (level : Nat) : Except Fault Unit :=
  if level ≤ levelLimit then .ok () else .error .tooDeep

mutual

/-- A value that JSON knows, for one that stands on a level. -/
def formAt (level : Nat) : Value → Except Fault Value
  | .scalar s => do
    checkLevel level
    s.form.map .scalar
  | .list xs => do
    checkLevel level
    (formItems (level + 1) xs).map .list
  | .tuple xs => do
    checkLevel level
    (formItems (level + 1) xs).map .list
  | .set ms => do
    checkLevel level
    (formMembers (level + 1) ms).map .list
  | .object es => do
    checkLevel level
    (formEntries (level + 1) [] es).map .object
  | .again _ => .error .endless

def formItems (level : Nat) : List Value → Except Fault (List Value)
  | [] => .ok []
  | v :: rest => do
    let w ← formAt level v
    let ws ← formItems level rest
    return w :: ws

def formMembers (level : Nat) : List Scalar → Except Fault (List Value)
  | [] => .ok []
  | s :: rest => do
    checkLevel level
    let w ← s.form
    let ws ← formMembers level rest
    return .scalar w :: ws

/-- Entries with texts for keys, behind those that are done. Keys may have become the same. -/
def formEntries (level : Nat) (done : List (Scalar × Value)) :
    List (Scalar × Value) → Except Fault (List (Scalar × Value))
  | [] => .ok done
  | (k, v) :: rest => do
    let name ← k.keyForm
    let w ← formAt level v
    formEntries level (put (.str name) w done) rest

end

/-- A value that JSON knows. -/
def form (v : Value) : Except Fault Value :=
  formAt 1 v

/-- An optional text. -/
def ofText? (s : Option String) : Value :=
  (s.map .str).getD .null

/-- Entries under text keys. -/
def formFields : List (String × Value) → Except Fault (List (String × Value))
  | [] => .ok []
  | (k, v) :: rest => do
    let w ← form v
    let others ← formFields rest
    return (k, w) :: others

end Value

/-! ## Records -/

/-- A record: its fields and what was said beyond them. -/
def recordForm (fields : List (String × Value)) (extras : Extras) : Except Fault Value :=
  (Value.formFields extras).map fun others => Value.ofFields (fields ++ others)

def Parameter.form (p : Parameter) : Except Fault Value := do
  let singleton ← p.singleton.form
  recordForm [
    ("name", .str p.name),
    ("camelCaseName", .str p.camelCaseName),
    ("in", .ofText? p.location),
    ("required", .bool p.required),
    ("isPathParameter", .bool p.isPath),
    ("isQueryParameter", .bool p.isQuery),
    ("isHeaderParameter", .bool p.isHeader),
    ("isFormParameter", .bool p.isForm),
    ("isBodyParameter", .bool p.isBody),
    ("isSingleton", .bool p.isSingleton),
    ("singleton", singleton),
    ("isPatternType", .bool p.isPattern),
    ("pattern", .ofText? p.pattern),
    ("cardinality", .str p.cardinality)] p.extras

def HeaderSpec.form (h : HeaderSpec) : Value :=
  .ofFields [("name", .str h.name), ("value", .str h.value)]

def parametersForm (ps : List Parameter) : Except Fault Value :=
  (ps.mapM Parameter.form).map .list

/-- A parameter, or null if there is none. -/
def parameterForm? : Option Parameter → Except Fault Value
  | none => .ok .null
  | some p => p.form

/-- The documents that a method refers to, or null if it refers to none. -/
def documentsForm? : Option (List (String × Value)) → Except Fault Value
  | none => .ok .null
  | some es => (Value.formEntries 1 [] (es.map fun (k, v) => (.str k, v))).map Value.object

def Method.form (m : Method) : Except Fault Value := do
  let externalDocs ← documentsForm? m.externalDocs
  let parameters ← parametersForm m.parameters
  let accepts ← Value.formItems 1 m.accepts
  let contentTypes ← Value.formItems 1 m.contentTypes
  let pathParams ← parametersForm m.pathParams
  let queryParams ← parametersForm m.queryParams
  let headerParams ← parametersForm m.headerParams
  let formParams ← parametersForm m.formParams
  let requiredParams ← parametersForm m.requiredParams
  let optionalParams ← parametersForm m.optionalParams
  let bodyParam ← parameterForm? m.bodyParam
  return .ofFields [
    ("path", .str m.path),
    ("methodName", .str m.methodName),
    ("method", .str m.verb),
    ("isGET", .bool m.isGet),
    ("isPOST", .bool m.isPost),
    ("summary", .ofText? m.summary),
    ("externalDocs", externalDocs),
    ("isSecure", .bool m.isSecure),
    ("hasOptionalParameter", .bool m.hasOptionalParameter),
    ("parameters", parameters),
    ("headers", .list (m.headers.map HeaderSpec.form)),
    ("accepts", .list accepts),
    ("contentTypes", .list contentTypes),
    ("pathParams", pathParams),
    ("queryParams", queryParams),
    ("headerParams", headerParams),
    ("formParams", formParams),
    ("requiredParams", requiredParams),
    ("optionalParams", optionalParams),
    ("bodyParam", bodyParam)]

def Service.form (s : Service) : Except Fault Value := do
  let methods ← s.methods.mapM Method.form
  return .ofFields [
    ("name", .str s.name),
    ("serviceName", .str s.serviceName),
    ("camelCaseName", .str s.camelCaseName),
    ("version", .ofText? s.version),
    ("methods", .list methods)]

def Property.form (p : Property) : Except Fault Value :=
  recordForm [
    ("name", .str p.name),
    ("camelCaseName", .str p.camelCaseName),
    ("type", .str p.type)] p.extras

def Model.form (m : Model) : Except Fault Value := do
  let properties ← m.properties.mapM Property.form
  recordForm [
    ("name", .str m.name),
    ("modelName", .str m.modelName),
    ("version", .ofText? m.version),
    ("properties", .list properties)] m.extras

def Summary.form (s : Summary) : Except Fault Value := do
  let services ← s.services.mapM Service.form
  let models ← s.models.mapM Model.form
  return .ofFields [
    ("version", .ofText? s.version),
    ("title", .ofText? s.title),
    ("description", .ofText? s.description),
    ("isSecure", .bool s.isSecure),
    ("domain", .str s.domain),
    ("baseUrl", .str s.baseUrl),
    ("moduleName", .ofText? s.moduleName),
    ("serviceName", .ofText? s.serviceName),
    ("imports", (s.imports.map fun names => Value.list (names.map .str)).getD .null),
    ("services", .list services),
    ("models", .list models)]

end ApiOutline
