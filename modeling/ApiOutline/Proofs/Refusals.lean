/-
What a description can be refused for.

Most of what can go wrong is about the shape of a document, and is found out by asking a value for
something it does not have. A refusal is another thing: it is about what the description says, and
there are three places only where one is made. No decoder takes the version; a name makes no
identifier; a reference leads nowhere. The last is for descriptions by paths, and for callers who
want it.

That a computation is refused for such reasons only, if at all (`RefusedFor`), is kept by doing one
after the other, and by doing the same for all elements of a list. So it is said once for each
question that can be asked of a value, and from there for each function in the order in which they
are built on each other, up to `refusedFor_decode`.
-/
import ApiOutline.Proofs.Failures
import ApiOutline.Proofs.Walk

set_option autoImplicit false

namespace ApiOutline

/-- If a computation is refused, it is for a reason of this kind. -/
def RefusedFor {α : Type} (P : Refusal → Prop) (x : Except Fault α) : Prop :=
  ∀ reason, x = .error (.refused reason) → P reason

section Kept

variable {P : Refusal → Prop} {α β : Type}

/-! ## What keeps it -/

/-- A computation with a result is refused for nothing, so it is refused only for reasons of any
kind one likes. Every chain of steps below ends with this. -/
theorem refusedFor_ok (a : α) : RefusedFor P (.ok a : Except Fault α) :=
  fun _ h => nomatch h

/-- An explicit refusal is for a reason of the kind if its own reason is. The three places where a
refusal is made come down to this. -/
theorem refusedFor_refused {reason : Refusal} (h : P reason) :
    RefusedFor P (.error (.refused reason) : Except Fault α) := by
  intro other hother
  obtain rfl : reason = other := Fault.refused.inj (Except.error.inj hother)
  exact h

namespace RefusedFor

/-- One computation after the other: the first is refused for such reasons only, and so is the
second for whatever result the first really has. Hence the second may rely on where its input
comes from. -/
theorem bind {x : Except Fault α} {f : α → Except Fault β} (hx : RefusedFor P x)
    (hf : ∀ a, x = .ok a → RefusedFor P (f a)) : RefusedFor P (x >>= f) := by
  cases x with
  -- a failure of the first step is the failure of both
  | error e =>
    intro reason h
    obtain rfl : e = .refused reason := Except.error.inj h
    exact hx reason rfl
  | ok a => exact hf a rfl

/-- What is done with a result afterwards adds no refusal, as it cannot fail. -/
theorem map {x : Except Fault α} (hx : RefusedFor P x) (f : α → β) : RefusedFor P (x.map f) := by
  cases x with
  | error e =>
    intro reason h
    obtain rfl : e = .refused reason := Except.error.inj h
    exact hx reason rfl
  | ok a => exact refusedFor_ok (f a)

/-- What holds for every element of a list holds for all of them one after the other: the first
element that fails decides. -/
theorem mapM {f : α → Except Fault β} {as : List α} (h : ∀ a ∈ as, RefusedFor P (f a)) :
    RefusedFor P (as.mapM f) := by
  induction as with
  | nil => exact refusedFor_ok []
  | cons a as ih =>
    rw [List.mapM_cons]
    refine (h a List.mem_cons_self).bind fun b _ => ?_
    have hrest := ih fun a' ha' => h a' (List.mem_cons_of_mem a ha')
    exact hrest.bind fun bs _ => refusedFor_ok (b :: bs)

end RefusedFor

/-- A computation that is refused for such reasons only, and whose result, if it has one, has a
property. -/
structure Keeps (I : α → Prop) (P : Refusal → Prop) (x : Except Fault α) : Prop where
  refused : RefusedFor P x
  kept : ∀ a, x = .ok a → I a

namespace Keeps

variable {I : β → Prop}

/-- A result that has the property at hand keeps it, as nothing is refused. -/
theorem ok {b : β} (h : I b) : Keeps I P (.ok b) := by
  refine ⟨refusedFor_ok b, fun a ha => ?_⟩
  rw [← Except.ok.inj ha]
  exact h

/-- The first of two computations only has to be refused for such reasons. The property is asked
of the result of the second one alone. -/
theorem bind {x : Except Fault α} {f : α → Except Fault β} (hx : RefusedFor P x)
    (hf : ∀ a, x = .ok a → Keeps I P (f a)) : Keeps I P (x >>= f) := by
  refine ⟨hx.bind fun a ha => (hf a ha).refused, fun b hb => ?_⟩
  obtain ⟨a, ha, hb⟩ := Outcome.bind_eq_ok_iff.1 hb
  exact (hf a ha).kept b hb

/-- What every step of a fold keeps, the fold keeps, so a step may rely on it. -/
theorem foldlM {f : β → α → Except Fault β} {as : List α}
    (h : ∀ b, I b → ∀ a ∈ as, Keeps I P (f b a)) {b : β} (hb : I b) :
    Keeps I P (as.foldlM f b) := by
  induction as generalizing b with
  | nil => exact .ok hb
  | cons a as ih =>
    have hstep : Keeps I P (f b a) := h b hb a List.mem_cons_self
    rw [List.foldlM_cons]
    refine .bind hstep.refused fun b' hb' => ?_
    exact ih (fun b hb a' ha' => h b hb a' (List.mem_cons_of_mem a ha')) (hstep.kept b' hb')

end Keeps

/-- A fold whose steps are refused for such reasons only, whatever has been collected so far, is
refused for such reasons only. -/
theorem RefusedFor.foldlM {f : β → α → Except Fault β} {as : List α}
    (h : ∀ b, ∀ a ∈ as, RefusedFor P (f b a)) (b : β) : RefusedFor P (as.foldlM f b) := by
  -- a property that says nothing is kept by everything
  have hkeeps : Keeps (fun _ => True) P (as.foldlM f b) :=
    .foldlM (fun b _ a ha => ⟨h b a ha, fun _ _ => trivial⟩) trivial
  exact hkeeps.refused

/-! ## Questions to values -/

/-- What fails in another way than by a refusal is not refused. -/
theorem RefusedFor.of_failsAs {Q : Fault → Prop} {x : Except Fault α} (h : FailsAs Q x)
    (hQ : ∀ reason, ¬ Q (.refused reason)) : RefusedFor P x :=
  fun reason hx => absurd (h _ hx) (hQ reason)

namespace Value

/-- No question is refused. -/
theorem refusedFor_ask (q : Question α) (v : Value) : RefusedFor P (q.ask v) :=
  .of_failsAs (failsAs_ask q v) fun _ h => nomatch h

/-- What is too large is not refused for it. -/
theorem refusedFor_of_size {x : Except Fault α} (h : FailsAs (·.isSize = true) x) :
    RefusedFor P x :=
  .of_failsAs h fun _ h => nomatch h

end Value

/-- A refusal that cannot be put into words is none. -/
theorem refusedFor_raised {reason : Refusal} (h : P reason)
    (hwords : FailsAs (·.isSize = true) reason.checkText) :
    RefusedFor P (.error reason.raised : Except Fault α) := by
  unfold Refusal.raised
  split
  · exact refusedFor_refused h
  · next f hf => exact Value.refusedFor_of_size (failsAs_error (hwords f hf))

/-! ## Versions, names and records -/

namespace Version

/-- Digits make a number or there are too many of them, which is a fault of its own and no
refusal. -/
theorem refusedFor_number (ds : List Char) : RefusedFor P (number ds) := by
  intro reason h
  unfold number at h
  split at h <;> exact nomatch h

/-- A part of a version that is not there counts as zero, and one that is there is a number. -/
theorem refusedFor_partNumber (ds : Option (List Char)) : RefusedFor P (partNumber ds) := by
  cases ds with
  | none => exact refusedFor_ok 0
  | some ds => exact refusedFor_number ds

/-- The three parts of a version are numbers one after the other, so none of them is a reason for
a refusal. -/
theorem refusedFor_version (p : Parts) : RefusedFor P p.version := by
  refine (refusedFor_number p.major).bind fun major _ => ?_
  refine (refusedFor_partNumber p.minor).bind fun minor _ => ?_
  exact (refusedFor_partNumber p.patch).bind fun patch _ => refusedFor_ok _

/-- Whether a version lies in a range is answered with yes or no, or fails for a number that is
too long or a range of unknown form. The choice of a decoder is not refused here. -/
theorem refusedFor_satisfies (version range : String) :
    RefusedFor P (satisfies version range) := by
  have hread : RefusedFor P (read? version) := by
    unfold read?
    cases parts? (body version.toList) with
    | none => exact refusedFor_ok none
    | some p => exact (refusedFor_version p).map some
  refine hread.bind fun v _ => ?_
  -- a text that is no version is in no range, which is an answer
  cases v with
  | none => exact refusedFor_ok false
  | some v =>
    dsimp only
    cases Range.read? range.toList with
    | none => exact fun _ h => nomatch h
    | some r =>
      -- either kind of range is read before anything is compared with it
      cases r with
      | anyMinor major => exact (refusedFor_number major).map _
      | caret least => exact (refusedFor_version least).map _

end Version

/-- A record that does not fit its fields fails with the list of its problems, which is not a
refusal. -/
theorem Reading.refusedFor_record (kind : RecordKind) (problems : List Problem) (a : α) :
    RefusedFor P (Reading.record kind problems a) := by
  intro reason h
  unfold record at h
  split at h <;> exact nomatch h

namespace Name

/-- To write a name in camel case asks one question of a value that counts as something, and none
of another. -/
theorem refusedFor_camelCaseOfValue (v : Value) : RefusedFor P (camelCaseOfValue v) := by
  unfold camelCaseOfValue
  split
  · exact (Value.refusedFor_ask .searchable v).map camelCase
  · exact refusedFor_ok ""

/-- A name made from a path is refused for nothing: a verb or a path of the wrong kind is a fault
in the shape of the document, and so are octets where words have to be joined to them. -/
theorem refusedFor_ofPathValue (verb path : Value) : RefusedFor P (ofPathValue verb path) := by
  unfold ofPathValue
  split
  · refine (Value.refusedFor_ask .asText path).bind fun p _ => ?_
    split
    · exact refusedFor_ok _
    · exact fun _ h => nomatch h
  · refine (Value.refusedFor_ask .asText _).bind fun verb _ => ?_
    exact (Value.refusedFor_ask .asText path).bind fun path _ => refusedFor_ok _

/-- **A name is refused only for being none**: the value counts as nothing, or no identifier can
be made of its text. -/
theorem refusedFor_identifierOfValue (h : ∀ name, P (.invalidMethodName name)) (v : Value) :
    RefusedFor P (identifierOfValue v) := by
  unfold identifierOfValue
  split
  · refine (Value.refusedFor_ask .searchable v).bind fun name _ => ?_
    unfold identifier?
    split
    · exact refusedFor_refused (h _)
    · exact refusedFor_ok _
  · exact refusedFor_refused (h v)

end Name

end Kept

namespace Decoding

open Value Name

variable {P : Refusal → Prop}

/-! ## What is said about the whole -/

/-- What is said about the whole is one record, so it is the fields that may not fit. -/
theorem refusedFor_summary (head : Head) (o : Options) : RefusedFor P (head.summary o) :=
  Reading.refusedFor_record _ _ _

/-- The scheme of the address is the first one that is listed, or the caller's, or a fixed one.
Only the first of these takes a question. -/
theorem refusedFor_schemeOf (spec : Value.Entries) (o : Options) :
    RefusedFor P (schemeOf spec o) := by
  unfold schemeOf
  dsimp only
  split
  · exact (refusedFor_ask .first _).bind fun first _ => refusedFor_ok _
  · exact refusedFor_ok _

/-- The host has to be a text. Unless it states a scheme of its own, the two are put together, and
the scheme has to be writable for that. -/
theorem refusedFor_domainOf (spec : Value.Entries) (o : Options) :
    RefusedFor P (domainOf spec o) := by
  refine (refusedFor_ask .asText _).bind fun host _ => ?_
  split
  · exact refusedFor_ok _
  · refine (refusedFor_schemeOf spec o).bind fun scheme _ => ?_
    exact (refusedFor_of_size (failsAs_checkText scheme)).bind fun _ _ => refusedFor_ok _

/-- The base path is joined to the address if it counts as something, and then it has to be a
text. -/
theorem refusedFor_baseUrlOf (spec : Value.Entries) (domain : String) :
    RefusedFor P (baseUrlOf spec domain) := by
  unfold baseUrlOf
  dsimp only
  split
  · exact (refusedFor_ask .asText _).bind fun path _ => refusedFor_ok _
  · exact refusedFor_ok ""

/-- The head of a description by paths is made from questions to the part called `info` and from
the address. The version and the title are written as texts on the way, which may fail for their
size. -/
theorem refusedFor_pathsHead (spec : Value.Entries) (o : Options) :
    RefusedFor P (pathsHead spec o) := by
  refine (refusedFor_ask (.entry "info") (.object spec)).bind fun info _ => ?_
  refine (refusedFor_ask (.field "version") info).bind fun version _ => ?_
  refine (refusedFor_of_size (failsAs_checkText version)).bind fun _ _ => ?_
  -- the address is put together between the version and the title
  refine (refusedFor_domainOf spec o).bind fun domain _ => ?_
  refine (refusedFor_ask (.field "title") info).bind fun title _ => ?_
  refine (refusedFor_of_size (failsAs_checkText title)).bind fun _ _ => ?_
  refine (refusedFor_ask (.field "description") info).bind fun description _ => ?_
  exact (refusedFor_baseUrlOf spec domain).bind fun baseUrl _ => refusedFor_ok _

/-- The type of a property is written with a capital. Octets are taken for letters, and anything
else is asked for its text. -/
theorem refusedFor_capitalizedType (type : Value) : RefusedFor P (capitalizedType type) := by
  unfold capitalizedType
  split
  · exact refusedFor_ok _
  · exact (refusedFor_ask .asText _).map _

/-- A property is a copy of its schema with a name and a type, and nothing in making one is a
refusal. The copy may be too deep, and the record may not fit. -/
theorem refusedFor_propertyOf (key : Scalar) (schema : Value) :
    RefusedFor P (propertyOf key schema) := by
  refine (refusedFor_of_size (failsAs_checkCopy schema)).bind fun _ _ => ?_
  refine (refusedFor_ask (.field "name") schema).bind fun node _ => ?_
  refine (refusedFor_camelCaseOfValue _).bind fun name _ => ?_
  refine (refusedFor_ask .entries schema).bind fun entries _ => ?_
  refine (refusedFor_capitalizedType _).bind fun type _ => ?_
  exact Reading.refusedFor_record _ _ _

/-- The properties of a model are made one by one, in the order of their keys. -/
theorem refusedFor_propertiesOf (definition : Value) :
    RefusedFor P (propertiesOf definition) := by
  refine (refusedFor_ask (.field "properties") definition).bind fun stated _ => ?_
  refine (refusedFor_ask .entries _).bind fun schemas _ => ?_
  exact RefusedFor.mapM fun e _ => refusedFor_propertyOf e.1 e.2

/-- A model is a copy of its definition with the properties in it. -/
theorem refusedFor_modelOf (version : Option String) (key : Scalar) (definition : Value) :
    RefusedFor P (modelOf version key definition) := by
  refine (refusedFor_of_size (failsAs_checkCopy definition)).bind fun _ _ => ?_
  refine (refusedFor_propertiesOf definition).bind fun properties _ => ?_
  refine (refusedFor_ask .entries definition).bind fun entries _ => ?_
  exact Reading.refusedFor_record _ _ _

/-- Models are made of the definitions one after the other, with those left out that are
extensions where extensions are passed over. -/
theorem refusedFor_modelsOf (skipExtensions : Bool) (version : Option String)
    (definitions : Value) : RefusedFor P (modelsOf skipExtensions version definitions) := by
  have hmodel : ∀ key definition,
      RefusedFor P ((modelOf version key definition).map some) := fun key definition =>
    (refusedFor_modelOf version key definition).map some
  refine (refusedFor_ask .entries _).bind fun stated _ => ?_
  refine RefusedFor.bind (RefusedFor.mapM fun e _ => ?_) fun models _ => refusedFor_ok _
  obtain ⟨key, definition⟩ := e
  dsimp only
  -- an extension of the format is passed over, anything else makes a model
  split
  · refine RefusedFor.bind ((refusedFor_ask .asText _).bind fun name _ => refusedFor_ok _) ?_
    intro isExtension _
    cases isExtension with
    | true => exact refusedFor_ok none
    | false => exact hmodel key definition
  · exact hmodel key definition

/-! ## Services and names -/

/-- The tag under which an operation is filed is the first of its own, if it has any, or a fixed
one. So at most two questions are asked. -/
theorem refusedFor_serviceTag (o : Options) (node : Value) : RefusedFor P (serviceTag o node) := by
  refine (refusedFor_ask (.field "tags") node).bind fun tags _ => ?_
  dsimp only
  split
  · exact (refusedFor_ask .first tags).bind fun tag _ => refusedFor_ok _
  · exact refusedFor_ok _

/-- A service begins as a record with a name and no methods. -/
theorem refusedFor_newService (version : Option String) (tag : Value) :
    RefusedFor P (newService version tag) :=
  Reading.refusedFor_record _ _ _

/-- Finding the service of an operation, or making it, is refused for nothing. A tag that cannot
be looked up is a fault in the shape. -/
theorem refusedFor_serviceOf (o : Options) (version : Option String) (roster : Roster)
    (node : Value) : RefusedFor P (serviceOf o version roster node) := by
  refine (refusedFor_serviceTag o node).bind fun tag _ => ?_
  refine (refusedFor_ask .asKey tag).bind fun key _ => ?_
  dsimp only
  cases roster.service? (key.getD .null) with
  | some service => exact refusedFor_ok _
  | none => exact (refusedFor_newService version tag).bind fun service _ => refusedFor_ok _

/-- Taking the name of the service off the name of a method asks for a text, and for nothing if
there is no name. -/
theorem refusedFor_withoutService (service : Service) (raw : Value) :
    RefusedFor P (withoutService service raw) := by
  unfold withoutService
  split
  · refine (refusedFor_ask .asText raw).bind fun name _ => ?_
    split
    · exact refusedFor_ok _
    · exact refusedFor_ok raw
  · exact refusedFor_ok raw

/-- The name that a method is asked to have is what its operation states, less the service, or is
made from verb and path. Whether it is one is not looked at yet. -/
theorem refusedFor_nameOf (d : Dialect) (own : String → String) (service : Service)
    (raw verb path : Value) : RefusedFor P (nameOf d own service raw verb path).outcome := by
  rw [nameOf, Trace.outcome_bind, Trace.outcome_liftM]
  refine (refusedFor_withoutService service raw).bind fun stated _ => ?_
  split
  · rw [Trace.outcome_bind, Trace.outcome_liftM]
    exact (refusedFor_ask .asText stated).bind fun name _ => refusedFor_ok _
  -- nothing is stated, so the name is made from verb and path
  · simp only [Trace.outcome_bind, Trace.outcome_liftM]
    exact (refusedFor_ofPathValue verb path).bind fun name _ => refusedFor_ok name

/-- The base of a name is where a method can be refused: for a name that makes no identifier. -/
theorem refusedFor_base (hname : ∀ name, P (.invalidMethodName name)) (d : Dialect)
    (service : Service) (op : Operation) : RefusedFor P (op.base d service) := by
  refine (refusedFor_ask (.field d.nameField) op.node).bind fun raw _ => ?_
  refine (refusedFor_nameOf d id service raw op.verb op.path).bind fun name _ => ?_
  exact refusedFor_identifierOfValue hname name

/-! ## Parameters -/

theorem refusedFor_withCamelCase (node : Value.Entries) : RefusedFor P (withCamelCase node) :=
  (refusedFor_camelCaseOfValue _).bind fun _ _ => refusedFor_ok _

/-- The value of a parameter with one choice is looked up where there is exactly one, so the list
is there and not empty. -/
theorem refusedFor_withSingleton (written node : Value.Entries) :
    RefusedFor P (withSingleton written node) := by
  unfold withSingleton
  dsimp only
  split
  · refine (refusedFor_ask .size _).bind fun size _ => ?_
    split
    · exact (refusedFor_ask .first _).bind fun only _ => refusedFor_ok _
    · exact refusedFor_ok node
  · exact refusedFor_ok node

theorem refusedFor_withLocation (d : Dialect) (location : Value) (node : Value.Entries) :
    RefusedFor P (withLocation d location node) := by
  unfold withLocation
  split
  · exact refusedFor_ok _
  · refine (refusedFor_ask .asKey location).bind fun key _ => ?_
    split
    · split
      · exact refusedFor_ok _
      · exact refusedFor_ok node
    · exact refusedFor_ok node

/-- Making a parameter is never refused, though it may fail: for a value that is not what it is
asked for, for a node of more levels than can be copied, or for a record with a field of the wrong
type. -/
theorem refusedFor_parameterOf (d : Dialect) (node : Value) :
    RefusedFor P (parameterOf d node) := by
  refine (refusedFor_ask (.field d.locationField) node).bind fun location _ => ?_
  refine (refusedFor_ask .entries node).bind fun entries _ => ?_
  refine (refusedFor_of_size (failsAs_checkCopy node)).bind fun _ _ => ?_
  -- three derivations on the copy, and then the record
  refine RefusedFor.bind ?_ fun derived _ => Reading.refusedFor_record _ _ _
  refine (refusedFor_withCamelCase entries).bind fun named _ => ?_
  refine (refusedFor_withSingleton entries named).bind fun single _ => ?_
  exact (refusedFor_withLocation d location single).bind fun placed _ => refusedFor_ok _

/-- Whether a parameter is left out is read off two of its fields, the second of which is looked
at only if the first does not decide. -/
theorem refusedFor_isLeftOut (o : Options) (node : Value) : RefusedFor P (isLeftOut o node) := by
  refine (refusedFor_ask (.field "x-exclude-from-bindings") node).bind fun excluded _ => ?_
  split
  · exact refusedFor_ok true
  · exact (refusedFor_ask (.field "x-proxy-header") node).bind fun header _ => refusedFor_ok _

section References

variable {o : Options} (hreference : o.strictRefs.truthy = true →
  ∀ target place : String, P (.unresolvedReference (.str target) (.str place)))

include hreference

/-- A reference that leads nowhere is refused only if the caller wants that. -/
theorem refusedFor_resolve (spec : Value.Entries) (target place : String) :
    RefusedFor P (resolve spec o target place).outcome := by
  rw [resolve, Trace.outcome_bind, Trace.outcome_liftM]
  let named := (spec.get "parameters").orElse (.object [])
  refine (refusedFor_ask (.fieldAt (referenceName target)) named).bind fun shared _ => ?_
  split
  · split
    · next hstrict => exact refusedFor_refused (hreference hstrict target place)
    · exact refusedFor_ok none
  · exact refusedFor_ok (some shared)

/-- A parameter of a description by paths is left out, or is what its reference leads to, or is
the node itself. A reference is the only reason for a refusal among these. -/
theorem refusedFor_pathsParameter (spec : Value.Entries) (place : String) (node : Value) :
    RefusedFor P (pathsParameter spec o place node).outcome := by
  -- both ways out make a parameter of a node
  have hparameter : ∀ shared : Value, RefusedFor P
      (do let p ← parameterOf .paths shared; return some p : Trace (Option Parameter)).outcome := by
    intro shared
    rw [Trace.outcome_bind, Trace.outcome_liftM]
    exact (refusedFor_parameterOf .paths shared).bind fun p _ => refusedFor_ok (some p)
  rw [pathsParameter, Trace.outcome_bind, Trace.outcome_liftM]
  refine (refusedFor_isLeftOut o node).bind fun leftOut _ => ?_
  split
  · exact refusedFor_ok none
  · rw [Trace.outcome_bind, Trace.outcome_liftM]
    refine (refusedFor_ask (.field "$ref") node).bind fun reference _ => ?_
    split
    · rw [Trace.outcome_bind]
      refine (refusedFor_resolve hreference spec _ place).bind fun found _ => ?_
      -- a reference that leads nowhere has been refused by now, or is left out
      cases found with
      | none => exact refusedFor_ok none
      | some shared => exact hparameter shared
    · exact hparameter node

end References

/-! ## Operations -/

/-- The types that an answer may have are those of the operation, or among those of the whole the
preferred one, or all of them. -/
theorem refusedFor_answerTypes (spec operation : Value.Entries) :
    RefusedFor P (answerTypes spec operation) := by
  unfold answerTypes
  dsimp only
  split
  · exact (refusedFor_ask .elements _).map some
  · split
    · refine (refusedFor_ask (.containsText jsonType) _).bind fun json _ => ?_
      split
      · exact refusedFor_ok _
      · exact (refusedFor_ask .elements _).map some
    · exact refusedFor_ok none

/-- The types that a request may have are those of the operation or those of the whole, and are
asked for their elements either way. -/
theorem refusedFor_requestTypes (spec operation : Value.Entries) :
    RefusedFor P (requestTypes spec operation) := by
  unfold requestTypes
  dsimp only
  -- whose types they are makes no difference
  generalize (if (operation.get "consumes").isNull then spec.get "consumes"
    else operation.get "consumes") = types
  split
  · exact refusedFor_ok none
  · exact (refusedFor_ask .elements types).map some

/-- What an operation takes and gives is made of two lists of types. The first is written into a
header, so its elements have to be writable. -/
theorem refusedFor_mediaOf (spec operation : Value.Entries) :
    RefusedFor P (mediaOf spec operation) := by
  refine (refusedFor_answerTypes spec operation).bind fun answers _ => ?_
  refine (refusedFor_of_size (failsAs_checkTexts _)).bind fun _ _ => ?_
  exact (refusedFor_requestTypes spec operation).bind fun requests _ => refusedFor_ok _

/-- The header for what is sent is made only where there are types, and each of them has to be a
text. -/
theorem refusedFor_contentTypeHeaders (types : List Value) :
    RefusedFor P (contentTypeHeaders types) := by
  unfold contentTypeHeaders
  split
  · exact refusedFor_ok []
  · refine RefusedFor.bind ?_ fun names _ => refusedFor_ok _
    exact RefusedFor.mapM fun type _ => refusedFor_ask .searchable type

theorem refusedFor_method (s : Stated) (name : String) : RefusedFor P (s.method name) :=
  Reading.refusedFor_record _ _ _

/-- **A method without its name is refused for references only**, and only in descriptions by
paths: its record, its types and its parameters are made of questions otherwise. -/
theorem refusedFor_unnamed {d : Dialect} (spec : Value.Entries) {o : Options}
    (hreference : d = .paths → o.strictRefs.truthy = true →
      ∀ target place : String, P (.unresolvedReference (.str target) (.str place)))
    (op : Operation) : RefusedFor P (op.unnamed d spec o) := by
  cases d with
  | listing =>
    refine (refusedFor_ask .entries op.node).bind fun operation _ => ?_
    refine (refusedFor_method _ "").bind fun method _ => ?_
    refine (refusedFor_mediaOf spec operation).bind fun media _ => ?_
    refine (refusedFor_contentTypeHeaders media.contentTypes).bind fun contentType _ => ?_
    refine (refusedFor_ask .elements _).bind fun nodes _ => ?_
    refine RefusedFor.bind ?_ fun parameters _ => refusedFor_ok _
    exact RefusedFor.mapM fun node _ => refusedFor_parameterOf .listing node
  | paths =>
    -- the own parameters are there, and those that are shared have to be a list
    have hnodes : ∀ operation, RefusedFor P (parameterNodes operation op.shared) := fun _ =>
      (refusedFor_ask .elements op.shared).bind fun others _ => refusedFor_ok _
    refine (refusedFor_ask .entries op.node).bind fun operation _ => ?_
    refine (refusedFor_method _ "").bind fun method _ => ?_
    refine (refusedFor_mediaOf spec operation).bind fun media _ => ?_
    refine (hnodes operation).bind fun nodes _ => ?_
    refine RefusedFor.bind ?_ fun parameters _ => refusedFor_ok _
    exact RefusedFor.mapM fun node _ => refusedFor_pathsParameter (hreference rfl) spec _ node

/-- **An operation is refused for its name or for a reference in it.** -/
theorem refusedFor_add {d : Dialect} (spec : Value.Entries) {o : Options} {version : Option String}
    {roster : Roster} {op : Operation}
    (hbase : ∀ filed, serviceOf o version roster op.node = .ok filed →
      RefusedFor P (op.base d filed.2))
    (hreference : d = .paths → o.strictRefs.truthy = true →
      ∀ target place : String, P (.unresolvedReference (.str target) (.str place))) :
    RefusedFor P (roster.add d spec o version op) := by
  refine (refusedFor_serviceOf o version roster op.node).bind fun filed hfiled => ?_
  refine (hbase filed hfiled).bind fun base _ => ?_
  exact (refusedFor_unnamed spec hreference op).bind fun method _ => refusedFor_ok _

/-! ## Listings -/

/-- The verb of an operation that stands in a listing is its own field. If it counts as something
it has to be a text. -/
theorem refusedFor_listingVerb (node : Value) : RefusedFor P (listingVerb node) := by
  refine (refusedFor_ask (.entry "method") node).bind fun verb _ => ?_
  split
  · exact refusedFor_ok _
  · exact (refusedFor_ask .asText _).bind fun verb _ => refusedFor_ok _

section Listing

variable {I : Roster → Prop} {spec : Value.Entries} {o : Options}
  (hadd : ∀ roster op, I roster → op.FoundIn spec .listing →
    Keeps I P (roster.add .listing spec o none op))

include hadd

/-- One operation of a listing keeps what adding any operation keeps. Where it has no verb the
step fails before anything is added, and what fails there is no refusal. -/
theorem keeps_listingOperation {path node : Value} {roster : Roster} (hroster : I roster)
    (hfound : ∀ verb, listingVerb node = .ok verb →
      Operation.FoundIn spec .listing ⟨path, verb, .list [], node⟩) :
    Keeps I P
      (listingOperation spec o (listingHead spec).isSecure path roster node).outcome := by
  cases hverb : listingVerb node with
  | ok verb =>
    rw [listingOperation_outcome spec o path roster hverb]
    exact hadd roster _ hroster (hfound verb hverb)
  | error e =>
    -- without a verb nothing behind the verb is reached
    simp only [listingOperation, Trace.outcome_bind, Trace.outcome_liftM]
    refine .bind (refusedFor_serviceOf o none roster node) fun filed _ => ?_
    refine .bind (refusedFor_ask .entries node) fun operation _ => ?_
    refine .bind (refusedFor_listingVerb node) fun verb hok => ?_
    cases hverb.symm.trans hok

/-- One resource of a listing keeps what adding keeps, as its operations are added in turn, each
found where the listing says. -/
theorem keeps_listingResource {apis resource : Value} {resources : List Value} {roster : Roster}
    (hapis : (Value.object spec).entry "apis" = .ok apis)
    (hresources : apis.elements = .ok resources)
    (hresource : resource ∈ resources) (hroster : I roster) :
    Keeps I P
      (listingResource spec o (listingHead spec).isSecure roster resource).outcome := by
  simp only [listingResource, Trace.outcome_bind, Trace.outcome_liftM, Trace.outcome_foldlM]
  refine .bind ?_ fun nodes hoperations => ?_
  · refine (refusedFor_ask (.entry "operations") resource).bind fun operations _ => ?_
    exact refusedFor_ask .elements operations
  -- where each of the operations was found is known from the two questions
  · obtain ⟨operations, hoperations, hnodes⟩ := Outcome.bind_eq_ok_iff.1 hoperations
    refine .foldlM (fun roster hroster node hnode => ?_) hroster
    refine .bind (refusedFor_ask (.entry "path") resource) fun path hpath => ?_
    exact keeps_listingOperation hadd hroster fun verb hverb =>
      .listed hapis hresources hresource hoperations hnodes hnode hpath hverb

/-- A listing is refused for what one of its operations is refused for. The rest is a record, the
models, and questions about where the resources are. -/
theorem refusedFor_decodeListing (hnil : I []) : RefusedFor P (decodeListing spec o).outcome := by
  simp only [decodeListing, Trace.outcome_bind, Trace.outcome_liftM, Trace.outcome_foldlM]
  refine (refusedFor_of_size (failsAs_checkTexts _)).bind fun _ _ => ?_
  refine (refusedFor_summary _ o).bind fun summary _ => ?_
  refine (refusedFor_ask (.entry "apis") (.object spec)).bind fun apis hapis => ?_
  refine (refusedFor_ask .size apis).bind fun count _ => ?_
  refine (refusedFor_ok ()).bind fun _ _ => ?_
  refine (refusedFor_ask .elements apis).bind fun resources hresources => ?_
  refine RefusedFor.bind ?_ fun roster _ => ?_
  · refine Keeps.refused (.foldlM (fun roster hroster resource hresource => ?_) hnil)
    exact keeps_listingResource hadd hapis hresources hresource hroster
  · exact (refusedFor_modelsOf false none _).bind fun models _ => refusedFor_ok _

end Listing

/-! ## Descriptions by paths -/

/-- A key that is not a text is a fault in the shape of the document. -/
theorem refusedFor_spelling (key : Scalar) : RefusedFor P (spelling key) := by
  intro reason h
  unfold spelling at h
  split at h <;> exact nomatch h

/-- The parameters that the operations of a path share stand under keys, of which each has to be a
text before it can be compared. -/
theorem refusedFor_sharedParameters (item : Value.Entries) :
    RefusedFor P (sharedParameters item) := by
  refine RefusedFor.foldlM (fun found e _ => ?_) _
  exact (refusedFor_spelling e.1).bind fun name _ => refusedFor_ok _

/-- Asking a key for its verb is asking a value, so it can fail but is never refused. -/
theorem refusedFor_verbOf (key : Scalar) : RefusedFor P (verbOf key) :=
  (refusedFor_spelling key).bind fun _ _ => refusedFor_ok _

section Paths

variable {I : Roster → Prop} {spec : Value.Entries} {o : Options}
  (hadd : ∀ version roster op, I roster → op.FoundIn spec .paths →
    Keeps I P (roster.add .paths spec o version op))

include hadd

/-- One path of a description keeps what adding keeps. A key that is no verb is passed over, and
under each of the others stands an operation that is added. -/
theorem keeps_pathsItem (version : Option String) {items : Value.Entries} {roster : Roster}
    {entry : Scalar × Value} (hitems : ((spec.get "paths").orElse (.object [])).entries = .ok items)
    (hentry : entry ∈ items) (hroster : I roster) :
    Keeps I P (pathsItem spec o version roster entry).outcome := by
  obtain ⟨path, item⟩ := entry
  simp only [pathsItem, Trace.outcome_bind, Trace.outcome_liftM, Trace.outcome_foldlM]
  refine .bind (refusedFor_ask .entries item) fun entries hentries => ?_
  refine .bind (refusedFor_sharedParameters entries) fun shared hshared => ?_
  refine .foldlM (fun roster hroster e he => ?_) hroster
  refine .bind (refusedFor_verbOf e.1) fun verb hverb => ?_
  -- only what stands under a verb is an operation
  cases verb with
  | none => exact .ok hroster
  | some verb =>
    obtain ⟨key, node⟩ := e
    obtain ⟨key, rfl, rfl, hmem⟩ := exists_of_verbOf hverb
    dsimp only
    rw [pathsOperation_outcome]
    exact hadd version roster _ hroster (.keyed hitems hentry hentries hshared he hmem)

/-- A description by paths is refused for what one of its operations is refused for, as a listing
is. -/
theorem refusedFor_decodePaths (hnil : I []) : RefusedFor P (decodePaths spec o).outcome := by
  simp only [decodePaths, Trace.outcome_bind, Trace.outcome_liftM, Trace.outcome_foldlM]
  refine (refusedFor_pathsHead spec o).bind fun head _ => ?_
  refine (refusedFor_summary head o).bind fun summary _ => ?_
  refine (refusedFor_ask .size _).bind fun count _ => ?_
  refine (refusedFor_ok ()).bind fun _ _ => ?_
  refine (refusedFor_ask .entries _).bind fun items hitems => ?_
  refine RefusedFor.bind ?_ fun roster _ => ?_
  · refine Keeps.refused (.foldlM (fun roster hroster entry hentry => ?_) hnil)
    exact keeps_pathsItem hadd head.version hitems hentry hroster
  · exact (refusedFor_modelsOf true _ _).bind fun models _ => refusedFor_ok _

end Paths

/-! ## The choice of a decoder -/

/-- Whether a decoder takes a description is found out from the version that is stated. It is
written as a text and read again, and neither is refused. -/
theorem refusedFor_accepts (d : Dialect) (spec : Value) : RefusedFor P (accepts d spec) := by
  refine (refusedFor_of_size (failsAs_checkText _)).bind fun _ _ => ?_
  split
  · exact refusedFor_ok false
  · exact Version.refusedFor_satisfies _ _

/-- **The choice of a decoder is refused for the version that is stated, if at all.** It is so
only after both decoders have been asked. -/
theorem refusedFor_select {spec : Value}
    (hversion : P (.unsupportedVersion (refusedVersion spec))) :
    RefusedFor P (select spec).outcome := by
  have hamong : ∀ ds, RefusedFor P (selectAmong spec ds).outcome := by
    intro ds
    -- over the decoders that have not been asked yet
    induction ds with
    | nil => exact refusedFor_raised hversion (failsAs_checkText _)
    | cons d rest ih =>
      rw [selectAmong, Trace.outcome_bind, Trace.outcome_liftM]
      refine (refusedFor_accepts d spec).bind fun accepted _ => ?_
      split
      · exact refusedFor_ok d
      · exact ih
  exact hamong [.listing, .paths]

end Decoding

open Decoding

/-- A description is refused for its version or for what one of its operations is refused for. That
may be asked about in rosters with a property only, if the empty roster has it and adding an
operation keeps it. -/
theorem refusedFor_decode_of_add {P : Refusal → Prop} {I : Roster → Prop} {spec : Value}
    {o : Options} (hversion : P (.unsupportedVersion (refusedVersion spec))) (hnil : I [])
    (hadd : ∀ d entries, (select spec).outcome = .ok d → spec.entries = .ok entries →
      ∀ version roster op, I roster → op.FoundIn entries d →
        Keeps I P (roster.add d entries o version op)) :
    RefusedFor P (decode spec o).outcome := by
  simp only [decode, Trace.outcome_bind, Trace.outcome_liftM]
  refine (refusedFor_select hversion).bind fun d hd => ?_
  refine (Value.refusedFor_ask .entries spec).bind fun entries hentries => ?_
  refine RefusedFor.bind ?_ fun summary _ => refusedFor_ok _
  -- from here on the dialect is known, and with it what may be added
  have hadd := hadd d entries hd hentries
  cases d with
  | listing => exact refusedFor_decodeListing (hadd none) hnil
  | paths => exact refusedFor_decodePaths hadd hnil

/-- **A description is refused for its version, for the name of a method, or, if the caller wants it
and the description is by paths, for a reference that leads nowhere.** -/
theorem refusedFor_decode {P : Refusal → Prop} {spec : Value} {o : Options}
    (hversion : P (.unsupportedVersion (refusedVersion spec)))
    (hname : ∀ name, P (.invalidMethodName name))
    (hreference : (select spec).outcome = .ok .paths → o.strictRefs.truthy = true →
      ∀ target place : String, P (.unresolvedReference (.str target) (.str place))) :
    RefusedFor P (decode spec o).outcome := by
  refine refusedFor_decode_of_add (I := fun _ => True) hversion trivial ?_
  intro d entries hd _ version roster op _ _
  refine ⟨refusedFor_add entries ?_ ?_, fun _ _ => trivial⟩
  · exact fun filed _ => refusedFor_base hname d filed.2 op
  · rintro rfl
    exact hreference hd

end ApiOutline
