/-
What can go wrong with a description.

A *refusal* is about the description as a description: its version is not supported, a reference
leads nowhere, a name yields no identifier. Other causes are about the shape of the document. It
is taken apart on the assumption that objects stand where objects belong, and a value that cannot
answer what it is asked ends the work; which question it failed to answer is part of the cause.
Finally a record of the outline may be handed a value of the wrong kind.

The wording of every cause is in `Refusal.message` and `Fault.message` and nowhere else.
-/
import ApiOutline.Value.Text

set_option autoImplicit false

namespace ApiOutline

/-! ## Records that hold the wrong thing -/

/-- The records of the outline. -/
inductive RecordKind where
  | summary
  | service
  | method
  | parameter
  | model
  | property
  deriving DecidableEq, Repr

/-- What is wrong with the value of a field, or with a key. -/
inductive Mismatch where
  | notText
  | notUnicode
  | notFlag
  | unknownFlag
  | notList
  | notMapping
  | notRecord
  | notKey
  deriving DecidableEq, Repr

/-- One step from a record to a value in it. -/
inductive Step where
  | key (name : String)
  | index (place : Int)
  deriving DecidableEq, Repr

/-- A mismatch and where it is. -/
structure Problem where
  location : List Step
  mismatch : Mismatch
  deriving DecidableEq, Repr

/-! ## Causes -/

/-- A description that is refused for what it says: one constructor for each exception of the
decoder's own. -/
inductive Refusal where
  /-- No decoder is known for this version. -/
  | decoderNotFound (version : Value)
  /-- No decoder accepts this version. -/
  | unsupportedVersion (version : Value)
  /-- A parameter refers to something that is not there. `place` is the operation, null if it is
  not known. -/
  | unresolvedReference (target place : Value)
  /-- No identifier can be made of this name. -/
  | invalidMethodName (name : Value)
  /-- A refusal for reasons of a caller's own. -/
  | unspecified (details : List Value)

/-- Why a description could not be decoded: a refusal, or what the operations on its values and
records raise. -/
inductive Fault where
  | refused (reason : Refusal)
  /-- A range of versions is written in a form that is not known. -/
  | unsupportedRange (range : String)
  /-- A record of the outline cannot hold what it was given. -/
  | invalidRecord (kind : RecordKind) (problems : List Problem)
  /-- An object has no entry where one is needed. -/
  | missingKey (key : Scalar)
  /-- A list or text is too short to have the element that is needed. -/
  | outOfRange
  /-- A value of this kind has no fields, or is no text. -/
  | noSuchOperation
  /-- A value of this kind cannot be measured, indexed, walked through or used as a key. -/
  | wrongType
  /-- A number is written with more digits than are read. -/
  | tooManyDigits (count : Nat)
  /-- An integer has more digits than are written. -/
  | unwritable
  /-- A value has more levels, one inside the other, than can be gone through. -/
  | tooNested
  /-- Octets that ought to be a text are none. -/
  | undecodable
  /-- A value that contains itself has no end. -/
  | endless
  /-- A value has more levels than are written. -/
  | tooDeep

namespace RecordKind

def title : RecordKind → String
  | .summary => "SpecSummary"
  | .service => "Service"
  | .method => "Method"
  | .parameter => "Parameter"
  | .model => "Model"
  | .property => "Property"

end RecordKind

namespace Mismatch

/-- The short name by which a mismatch is reported. -/
def label : Mismatch → String
  | .notText => "string_type"
  | .notUnicode => "string_unicode"
  | .notFlag => "bool_type"
  | .unknownFlag => "bool_parsing"
  | .notList => "list_type"
  | .notMapping => "dict_type"
  | .notRecord => "model_type"
  | .notKey => "invalid_key"

end Mismatch

/-- A refusal in words, as the exception for it puts them. -/
def Refusal.message : Refusal → String
  | .decoderNotFound version | .unsupportedVersion version =>
    "Не найден подходящий декодер для версии swagger " ++ version.text
  | .unresolvedReference target place =>
    "Не удалось разрешить ссылку " ++ target.text ++
      (if place.truthy then " (" ++ place.text ++ ")" else "")
  | .invalidMethodName name => "Некорректное имя метода: " ++ name.literal
  | .unspecified [] => ""
  | .unspecified [detail] => detail.text
  | .unspecified details => "(" ++ ", ".intercalate (details.map Value.literal) ++ ")"

namespace Fault

/-- The most digits that are read as one number, or written as one. -/
def digitLimit : Nat := 4300

def problemText (p : Problem) : String :=
  let step : Step → String
    | .key name => name
    | .index place => integerText place
  ".".intercalate (p.location.map step) ++ "\n  " ++ p.mismatch.label

/-- A cause in words. Shape faults carry none: only their kind is reported. -/
def message : Fault → String
  | .refused reason => reason.message
  | .unsupportedRange range => "Неподдерживаемый диапазон версий: " ++ range
  | .invalidRecord kind problems =>
    let count := problems.length
    Decimal.digitText count ++ (if count = 1 then " validation error" else " validation errors") ++
      " for " ++ kind.title ++ String.join (problems.map fun p => "\n" ++ problemText p)
  | .missingKey key => key.literal
  | .outOfRange => ""
  | .noSuchOperation => ""
  | .wrongType => ""
  | .tooManyDigits count =>
    "Exceeds the limit (" ++ Decimal.digitText digitLimit ++
      " digits) for integer string conversion: value has " ++ Decimal.digitText count ++
      " digits; use sys.set_int_max_str_digits() to increase the limit"
  | .unwritable =>
    "Exceeds the limit (" ++ Decimal.digitText digitLimit ++
      " digits) for integer string conversion" ++
      "; use sys.set_int_max_str_digits() to increase the limit"
  | .tooNested => ""
  | .undecodable => ""
  | .endless => "Circular reference detected (id repeated)"
  | .tooDeep => "Circular reference detected (depth exceeded)"

end Fault

end ApiOutline
