/-
Decoding as a computation that leaves a record of itself.

Whoever runs the decoder may want to see which decoder was chosen, which methods had to be named
or renamed and which references were passed over, and wants to see it also when the work fails.
So a run is a pair: the notices given, in order, and an outcome. Two runs in sequence concatenate
their notices, and a failed run is never followed by another; that is all there is to the monad.
-/
import ApiOutline.Fault

set_option autoImplicit false

namespace ApiOutline

/-- The two families of descriptions, each with a decoder of its own: listings of version 1, and
descriptions by paths of version 2. -/
inductive Dialect where
  /-- Versions 1: a list of resources, each with a list of operations. -/
  | listing
  /-- Versions 2: an object of paths, each an object of verbs. -/
  | paths
  deriving DecidableEq, Repr

/-- Something worth telling about a run. -/
inductive Notice where
  | selected (dialect : Dialect) (version : String)
  | started (dialect : Dialect) (count : Nat)
  | named (dialect : Dialect) (verb path name : String)
  | renamed (name service unique : String)
  | skipped (target place : String)
  deriving DecidableEq, Repr

namespace Dialect

/-- The name under which a decoder is known. -/
def decoderName : Dialect → String
  | .listing => "V1Decoder"
  | .paths => "V2Decoder"

/-- The part of the program that decodes a dialect, as it signs its notices. -/
def source : Dialect → String
  | .listing => "swagger_decoder.internal.decoders.v1"
  | .paths => "swagger_decoder.internal.decoders.v2"

end Dialect

/-- How much a notice matters. -/
inductive Level where
  | debug
  | info
  | warning
  deriving DecidableEq, Repr

def Level.label : Level → String
  | .debug => "DEBUG"
  | .info => "INFO"
  | .warning => "WARNING"

namespace Notice

/-- Only what changes the outline without being asked for is a warning. -/
def level : Notice → Level
  | .skipped .. => .warning
  | _ => .debug

/-- Who gives the notice. -/
def source : Notice → String
  | .selected .. => "swagger_decoder.internal.decoders"
  | .started d _ => d.source
  | .named d .. => d.source
  | .renamed .. => "swagger_decoder.internal.decoders.base"
  | .skipped .. => Dialect.paths.source

def message : Notice → String
  | .selected d version => "Selected " ++ d.decoderName ++ " for version " ++ version
  | .started .listing count =>
    "Decoding Swagger 1.x document with " ++ Decimal.digitText count ++ " apis"
  | .started .paths count =>
    "Decoding Swagger 2.x document with " ++ Decimal.digitText count ++ " paths"
  | .named .listing verb path name =>
    "No nickname for " ++ verb ++ " " ++ path ++ ", using " ++ name
  | .named .paths verb path name =>
    "No operationId for " ++ verb ++ " " ++ path ++ ", using " ++ name
  | .renamed name service unique =>
    "Method name " ++ name ++ " already taken in " ++ service ++ ", using " ++ unique
  | .skipped target place =>
    "Unresolved parameter reference " ++ target ++ " in " ++ place ++ ", skipped"

end Notice

/-- A run: what was told and how it ended. -/
structure Trace (α : Type) where
  notices : List Notice
  outcome : Except Fault α

namespace Trace

variable {α β : Type}

/-- A run that ends at once. -/
def done (a : α) : Trace α := ⟨[], .ok a⟩

/-- A run that fails at once. -/
def fail (f : Fault) : Trace α := ⟨[], .error f⟩

/-- A run that gives one notice. -/
def tell (n : Notice) : Trace Unit := ⟨[n], .ok ()⟩

/-- A computation without notices as a run. -/
def lift (r : Except Fault α) : Trace α := ⟨[], r⟩

/-- One run and, if it succeeds, another. -/
def andThen (x : Trace α) (f : α → Trace β) : Trace β :=
  match x.outcome with
  | .error e => ⟨x.notices, .error e⟩
  | .ok a => ⟨x.notices ++ (f a).notices, (f a).outcome⟩

instance : Monad Trace where
  pure := done
  bind := andThen

instance : MonadLift (Except Fault) Trace := ⟨lift⟩

theorem bind_def (x : Trace α) (f : α → Trace β) : x >>= f = x.andThen f := rfl

@[simp] theorem andThen_done (a : α) (f : α → Trace β) : (done a).andThen f = f a := by
  simp [andThen, done]

@[simp] theorem andThen_fail (e : Fault) (f : α → Trace β) :
    (fail e : Trace α).andThen f = fail e := rfl

@[simp] theorem andThen_right_done (x : Trace α) : x.andThen done = x := by
  obtain ⟨ns, r⟩ := x
  cases r <;> simp [andThen, done]

theorem andThen_assoc {γ : Type} (x : Trace α) (f : α → Trace β) (g : β → Trace γ) :
    (x.andThen f).andThen g = x.andThen fun a => (f a).andThen g := by
  obtain ⟨ns, r⟩ := x
  cases r with
  | error e => rfl
  | ok a =>
    simp only [andThen]
    cases (f a).outcome <;> simp [List.append_assoc]

instance : LawfulMonad Trace :=
  LawfulMonad.mk' Trace andThen_right_done andThen_done andThen_assoc

end Trace

end ApiOutline
