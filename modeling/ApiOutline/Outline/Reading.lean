/-
Records from values.

A record is filled field by field. A field that cannot hold its value is a problem, and all
problems of a record are reported together, in the order of the fields and then of the other
keys. So reading a field gives a value in any case, a harmless one if there was a problem, and
the record is only handed out when there was none.

A field may be written under two names, its own and the one it has in the outline. The outline's
name wins, and then the other is a key like any other.
-/
import ApiOutline.Outline.Basic
import ApiOutline.Fault
import ApiOutline.Text.Utf8

set_option autoImplicit false

namespace ApiOutline

/-! ## Single values -/

namespace Mismatch

/-- A text. Octets will do if they write one. -/
def text : Value → Except Mismatch String
  | .scalar (.str s) => .ok s
  | .scalar (.bytes bs) =>
    match Text.decodeUtf8? bs with
    | some s => .ok s
    | none => .error .notUnicode
  | _ => .error .notText

/-- A text or nothing. -/
def text? (v : Value) : Except Mismatch (Option String) :=
  if v.isNull then .ok none else (text v).map some

/-- The words for a switch, in any case. -/
def flagWords : List (String × Bool) :=
  [("0", false), ("off", false), ("f", false), ("false", false), ("n", false), ("no", false),
    ("1", true), ("on", true), ("t", true), ("true", true), ("y", true), ("yes", true)]

def flagOfWord (s : String) : Except Mismatch Bool :=
  match flagWords.lookup (s.map Char.toLower) with
  | some b => .ok b
  | none => .error .unknownFlag

/-- Does an integer fit into 64 bits? -/
def fitsWord (n : Int) : Bool :=
  -9223372036854775808 ≤ n && n < 9223372036854775808

/-- An integer as a switch: zero or one. Integers of more than 64 bits are no switches at all. -/
def flagOfInt (n : Int) : Except Mismatch Bool :=
  if n = 0 then .ok false
  else if n = 1 then .ok true
  else if fitsWord n then .error .unknownFlag
  else .error .notFlag

/-- A switch, which may be written as a truth value, a number or a word. -/
def flag : Value → Except Mismatch Bool
  | .scalar (.bool b) => .ok b
  | .scalar (.int n) => flagOfInt n
  | .scalar (.float x) =>
    match x.toInt? with
    | some n => flagOfInt n
    | none => .error .notFlag
  | .scalar (.str s) => flagOfWord s
  | .scalar (.bytes bs) =>
    match Text.decodeUtf8? bs with
    | some s => flagOfWord s
    | none => .error .unknownFlag
  | _ => .error .notFlag

end Mismatch

/-! ## Fields -/

/-- What was read from a field: a value in any case, and what was wrong. -/
structure Reading (α : Type) where
  value : α
  problems : List Problem

namespace Reading

variable {α β : Type}

def of (a : α) : Reading α := ⟨a, []⟩

/-- The outcome of one check, at a location. -/
def check (location : List Step) (default : α) (r : Except Mismatch α) : Reading α :=
  match r with
  | .ok a => ⟨a, []⟩
  | .error m => ⟨default, [⟨location, m⟩]⟩

def map (f : α → β) (r : Reading α) : Reading β := ⟨f r.value, r.problems⟩

/-- Readings in sequence, with all their problems. -/
def all : List (Reading α) → Reading (List α)
  | [] => ⟨[], []⟩
  | r :: rest => ⟨r.value :: (all rest).value, r.problems ++ (all rest).problems⟩

/-- A record, if no field had a problem. -/
def record (kind : RecordKind) (problems : List Problem) (a : α) : Except Fault α :=
  if problems.isEmpty then .ok a else .error (.invalidRecord kind problems)

end Reading

/-- The step to a key. Keys that are no texts are named by their number or by what would be
typed. -/
def Step.ofKey : Scalar → Step
  | .str s => .key s
  | .int n => if Mismatch.fitsWord n then .index n else .key (integerText n)
  | .bool b => .index (if b then 1 else 0)
  | k => .key k.literal

namespace Reading

/-- A text in a field. -/
def text (name : String) (v : Value) : Reading String :=
  check [.key name] "" (Mismatch.text v)

/-- A text in a field, or nothing. -/
def text? (name : String) (v : Value) : Reading (Option String) :=
  check [.key name] none (Mismatch.text? v)

/-- A list of texts in a field, or nothing. -/
def texts? (name : String) (v : Value) : Reading (Option (List String)) :=
  match v.opened with
  | .scalar .null => of none
  | .list xs =>
    let items := xs.zipIdx.map fun (v, i) =>
      check [.key name, .index i] "" (Mismatch.text v)
    (all items).map some
  | _ => ⟨none, [⟨[.key name], .notList⟩]⟩

/-- A mapping of texts in a field, or nothing. The keys have to be texts. -/
def mapping? (name : String) (v : Value) : Reading (Option (List (String × Value))) :=
  match v.opened with
  | .scalar .null => of none
  | .object es =>
    let entries := es.map fun (k, v) =>
      (check [.key name, Step.ofKey k, .key "[key]"] "" (Mismatch.text (.scalar k))).map (·, v)
    (all entries).map some
  | _ => ⟨none, [⟨[.key name], .notMapping⟩]⟩

end Reading

/-! ## Fields of objects -/

/-- A field by the name it has in the outline and by its own. -/
structure FieldName where
  shown : String
  own : String
  deriving DecidableEq, Repr

namespace FieldName

/-- The name under which an object has the field, and its value. -/
def find? (f : FieldName) (es : List (Scalar × Value)) : Option (String × Value) :=
  match Value.lookup (.str f.shown) es with
  | some v => some (f.shown, v)
  | none => (Value.lookup (.str f.own) es).map fun v => (f.own, v)

/-- A switch in the field, off if there is none. -/
def flag (f : FieldName) (es : List (Scalar × Value)) : Reading Bool :=
  match f.find? es with
  | none => .of false
  | some (name, v) => .check [.key name] false (Mismatch.flag v)

/-- A text in the field, `default` if there is none. -/
def text (f : FieldName) (default : String) (es : List (Scalar × Value)) : Reading String :=
  match f.find? es with
  | none => .of default
  | some (name, v) => .check [.key name] default (Mismatch.text v)

/-- A text in the field, or nothing. -/
def text? (f : FieldName) (es : List (Scalar × Value)) : Reading (Option String) :=
  match f.find? es with
  | none => .of none
  | some (name, v) => .check [.key name] none (Mismatch.text? v)

/-- Whatever is in the field, null if nothing is. -/
def any (f : FieldName) (es : List (Scalar × Value)) : Value :=
  match f.find? es with
  | none => .null
  | some (_, v) => v

/-- Does an entry of that key fill one of the fields? -/
def fills (fields : List FieldName) (es : List (Scalar × Value)) (key : String) : Bool :=
  fields.any fun f =>
    f.shown == key || (f.own == key && (Value.lookup (.str f.shown) es).isNone)

/-- The entries that fill no field, in their order. Their keys have to be texts. -/
def extras (fields : List FieldName) (es : List (Scalar × Value)) : Reading Extras :=
  let rest := es.filter fun (k, _) =>
    match k with
    | .str s => !fills fields es s
    | _ => true
  Reading.all (rest.map fun (k, v) =>
    match k with
    | .str s => .of (s, v)
    | k => ⟨("", v), [⟨[Step.ofKey k], .notKey⟩]⟩)

end FieldName

/-! ## Parameters -/

namespace Parameter

/-- The fields of a parameter, in order. -/
def fieldNames : List FieldName :=
  [⟨"name", "name"⟩, ⟨"camelCaseName", "camel_case_name"⟩, ⟨"in", "location"⟩,
    ⟨"required", "required"⟩, ⟨"isPathParameter", "is_path_parameter"⟩,
    ⟨"isQueryParameter", "is_query_parameter"⟩, ⟨"isHeaderParameter", "is_header_parameter"⟩,
    ⟨"isFormParameter", "is_form_parameter"⟩, ⟨"isBodyParameter", "is_body_parameter"⟩,
    ⟨"isSingleton", "is_singleton"⟩, ⟨"singleton", "singleton"⟩,
    ⟨"isPatternType", "is_pattern_type"⟩, ⟨"pattern", "pattern"⟩,
    ⟨"cardinality", "cardinality"⟩]

/-- A parameter from the entries of an object. -/
def ofEntries (es : List (Scalar × Value)) : Except Fault Parameter :=
  let name := FieldName.text ⟨"name", "name"⟩ "" es
  let camelCaseName := FieldName.text ⟨"camelCaseName", "camel_case_name"⟩ "" es
  let location := FieldName.text? ⟨"in", "location"⟩ es
  let required := FieldName.flag ⟨"required", "required"⟩ es
  let isPath := FieldName.flag ⟨"isPathParameter", "is_path_parameter"⟩ es
  let isQuery := FieldName.flag ⟨"isQueryParameter", "is_query_parameter"⟩ es
  let isHeader := FieldName.flag ⟨"isHeaderParameter", "is_header_parameter"⟩ es
  let isForm := FieldName.flag ⟨"isFormParameter", "is_form_parameter"⟩ es
  let isBody := FieldName.flag ⟨"isBodyParameter", "is_body_parameter"⟩ es
  let isSingleton := FieldName.flag ⟨"isSingleton", "is_singleton"⟩ es
  let isPattern := FieldName.flag ⟨"isPatternType", "is_pattern_type"⟩ es
  let pattern := FieldName.text? ⟨"pattern", "pattern"⟩ es
  let cardinality := FieldName.text ⟨"cardinality", "cardinality"⟩ "?" es
  let extras := FieldName.extras fieldNames es
  let problems :=
    name.problems ++ camelCaseName.problems ++ location.problems ++ required.problems ++
      isPath.problems ++ isQuery.problems ++ isHeader.problems ++ isForm.problems ++
      isBody.problems ++ isSingleton.problems ++ isPattern.problems ++ pattern.problems ++
      cardinality.problems ++ extras.problems
  Reading.record .parameter problems
    { name := name.value
      camelCaseName := camelCaseName.value
      location := location.value
      required := required.value
      isPath := isPath.value
      isQuery := isQuery.value
      isHeader := isHeader.value
      isForm := isForm.value
      isBody := isBody.value
      isSingleton := isSingleton.value
      singleton := FieldName.any ⟨"singleton", "singleton"⟩ es
      isPattern := isPattern.value
      pattern := pattern.value
      cardinality := cardinality.value
      extras := extras.value }

/-- A parameter from a value, which has to be an object. -/
def ofValue : Value → Except Fault Parameter
  | .object es => ofEntries es
  | _ => .error (.invalidRecord .parameter [⟨[], .notRecord⟩])

end Parameter

/-! ## Properties and models -/

namespace Property

def fieldNames : List FieldName :=
  [⟨"name", "name"⟩, ⟨"camelCaseName", "camel_case_name"⟩, ⟨"type", "type"⟩]

/-- A property from the entries of an object. -/
def ofEntries (es : List (Scalar × Value)) : Except Fault Property :=
  let name := Reading.text "name" (FieldName.any ⟨"name", "name"⟩ es)
  let camelCaseName := FieldName.text ⟨"camelCaseName", "camel_case_name"⟩ "" es
  let type := FieldName.text ⟨"type", "type"⟩ "" es
  let extras := FieldName.extras fieldNames es
  Reading.record .property
    (name.problems ++ camelCaseName.problems ++ type.problems ++ extras.problems)
    { name := name.value
      camelCaseName := camelCaseName.value
      type := type.value
      extras := extras.value }

end Property

namespace Model

def fieldNames : List FieldName :=
  [⟨"name", "name"⟩, ⟨"modelName", "model_name"⟩, ⟨"version", "version"⟩,
    ⟨"properties", "properties"⟩]

/-- A model with the properties that were made of the entry of that name. -/
def ofEntries (properties : List Property) (es : List (Scalar × Value)) : Except Fault Model :=
  let name := Reading.text "name" (FieldName.any ⟨"name", "name"⟩ es)
  let modelName := Reading.text "modelName" (FieldName.any ⟨"modelName", "model_name"⟩ es)
  let version := FieldName.text? ⟨"version", "version"⟩ es
  let extras := FieldName.extras fieldNames es
  Reading.record .model
    (name.problems ++ modelName.problems ++ version.problems ++ extras.problems)
    { name := name.value
      modelName := modelName.value
      version := version.value
      properties := properties
      extras := extras.value }

end Model

end ApiOutline
