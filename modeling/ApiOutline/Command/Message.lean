/-
Messages.

What is told while a command is at work, in order, and what keeps it from being done. Messages go
beside the result and never into it. Some are told only to those who asked for more.
-/
import ApiOutline.Decode
import ApiOutline.Loading
import ApiOutline.Settings

set_option autoImplicit false

namespace ApiOutline.Command

/-- Why a command could not be carried out. -/
inductive Fault where
  /-- The file with the settings is no UTF-8. -/
  | settings (f : Settings.NotText)
  /-- The location of the description cannot be written. -/
  | location (f : ApiOutline.Fault)
  | loading (f : Loading.Fault)
  | decoding (f : ApiOutline.Fault)
  | file (f : Files.Fault)
  /-- A path that is no text. -/
  | noPath

namespace Fault

/-- The cause in words. -/
def message : Fault → String
  | .settings f => f.path
  | .location f => f.message
  | .loading f => f.message
  | .decoding f => f.message
  | .file f => f.message
  | .noPath => ""

/-- Is a YAML failure one that is reported? Values that the notation promises and does not keep
are not. -/
def yamlIsReported : Yaml.Failure → Bool
  | .malformed ⟨.noSuchCharacter code, _⟩ => code < 0x80000000
  | .malformed ⟨.tooDeep, _⟩ => false
  | .malformed _ | .notAnInteger .. | .notANumber _ | .tooManyDigits _ | .noSuchTime _ => true
  | .unknownWord _ | .notATime | .timeInParts | .emptyNumber | .tooManySixties | .endless => false

/-- Is a text that is no JSON reported? -/
def jsonIsReported (m : Json.Malformed) : Bool := m.defect ≠ .tooDeep

/-- Is a fault of the network one that is reported? Addresses that are none are not, nor are bodies
in encodings of something else than text. -/
def webIsReported : Web.Fault → Bool
  | .badAddress _ => false
  | .badBody (.contentType .unorderedPieces) => false
  | .badBody (.undecodable .octets) | .badBody (.undecodable .texts) => false
  | _ => true

/-- Is a fault of a value one that is reported? Faults in the shape of a document are not, nor are
more levels than can be gone through. -/
def valueIsReported : ApiOutline.Fault → Bool
  | .refused _ | .unsupportedRange _ | .invalidRecord .. | .tooManyDigits _ | .unwritable
  | .undecodable | .endless | .tooDeep => true
  | .missingKey _ | .outOfRange | .noSuchOperation | .wrongType | .tooNested => false

/-- Is a fault reported? It is if the description, the network or the disk is to blame. Faults in
the shape of a document, and paths and addresses that are none, end the command without a
report. -/
def isReported : Fault → Bool
  | .settings _ => false
  | .location f => valueIsReported f
  | .loading .noLocation => false
  | .loading (.web f) => webIsReported f
  | .loading (.yaml f) => yamlIsReported f
  | .loading (.json m) => jsonIsReported m
  | .loading _ => true
  | .decoding f => valueIsReported f
  | .file _ => true
  | .noPath => false

end Fault

inductive Message where
  | created (path : String)
  | using (path : String)
  | noSpec
  | loading (location : Value)
  | asked (exchange : Web.Exchange)
  | decoding
  | noticed (notice : Notice)
  | saved (path : String)
  | failed (fault : Fault)

namespace Message

/-- A line of the log. -/
def logLine (level : Level) (source text : String) : String :=
  level.label ++ " " ++ source ++ ": " ++ text

def text : Message → String
  | .created path => "✅ Создан конфиг файл " ++ path
  | .using path => "📋 Используется конфиг из " ++ path
  | .noSpec => "❌ Ошибка: Укажите --spec или создайте конфиг с --init-config"
  | .loading location => "📥 Загрузка спецификации " ++ location.text ++ "..."
  | .asked exchange => logLine .info "httpx" exchange.message
  | .decoding => "⚙️ Декодирование..."
  | .noticed notice => logLine notice.level notice.source notice.message
  | .saved path => "✅ Результат сохранен в " ++ path
  | .failed fault => "❌ Ошибка декодирования: " ++ fault.message

/-- Is a message told to someone who did not ask for more? Of the log only warnings are. -/
def isPlain : Message → Bool
  | .asked _ => false
  | .noticed notice => notice.level == .warning
  | _ => true

/-- The messages that are told, each on a line. -/
def lines (verbose : Bool) (messages : List Message) : String :=
  String.join ((messages.filter fun m => verbose || m.isPlain).map fun m => m.text ++ "\n")

end Message

end ApiOutline.Command
