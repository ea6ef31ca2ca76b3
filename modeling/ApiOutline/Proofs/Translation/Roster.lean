/-
A run over the operations in both dialects.

Every operation is filed under the same tag in both, into services that differ by the translation of
their methods, under a name that is free in the one exactly if it is in the other. So a run over
translated operations comes to the translated roster, and where the one run cannot go on the other
cannot either, for the same reason (`foldlM_add_asPaths`).
-/
import ApiOutline.Proofs.Translation.Operation

set_option autoImplicit false

namespace ApiOutline

/-- Methods keep their names in a translation. -/
theorem Service.methodNames_asPaths (s : Service) : s.asPaths.methodNames = s.methodNames :=
  List.map_map ..

namespace Decoding

open Outcome Value

/-- The roster with all methods as they are in the other dialect. -/
def Roster.asPaths (roster : Roster) : Roster :=
  roster.map fun e => (e.1, e.2.asPaths)

/-! ## Services -/

/-- What is found under a key in a translated roster is the translation of what was found there
before. -/
theorem service?_asPaths (roster : Roster) (key : Scalar) :
    roster.asPaths.service? key = (roster.service? key).map Service.asPaths := by
  rw [Roster.service?, Roster.service?, Roster.asPaths, List.find?_map, Option.map_map,
    Option.map_map]
  rfl

/-- A translated service is put where the service was put. By induction along the roster, since
keys are not translated. -/
theorem put_asPaths (roster : Roster) (key : Scalar) (service : Service) :
    roster.asPaths.put key service.asPaths = (roster.put key service).asPaths := by
  induction roster with
  | nil => rfl
  | cons e rest ih =>
    rw [Roster.asPaths, List.map_cons, Roster.put, Roster.put]
    split
    · rfl
    · exact congrArg (_ :: ·) ih

/-- A new service has no methods that would have to be translated. -/
theorem newService_asPaths (version : Option String) (tag : Value) :
    newService version tag = (newService version tag).map Service.asPaths := by
  rw [newService, Reading.record_map]
  rfl

/-- An operation is filed under the same tag in both dialects, for tags are carried over as they
are. -/
theorem serviceTag_asPaths (o : Options) {node : Value} (h : PlainOperation node) :
    serviceTag o node.operationAsPaths = serviceTag o node := by
  obtain ⟨es, hes, _⟩ := h
  rw [serviceTag, serviceTag, field_of_entries hes,
    field_of_entries (entries_operationAsPaths hes), (carried_asPaths es).tags]

/-- An operation finds the same service as its translation, or creates it. Tags are translated as
they are, so the key is the same, and the place in the roster with it. A service that is created
is empty and its own translation. -/
theorem serviceOf_asPaths (o : Options) (version : Option String) (roster : Roster) {node : Value}
    (h : PlainOperation node) :
    serviceOf o version roster.asPaths node.operationAsPaths =
      (serviceOf o version roster node).map fun filed => (filed.1, filed.2.asPaths) := by
  rw [serviceOf, serviceOf, serviceTag_asPaths o h]
  cases serviceTag o node with
  | error e => rfl
  | ok tag =>
    rw [ok_bind, ok_bind]
    cases tag.asKey with
    | error e => rfl
    | ok key =>
      rw [ok_bind, ok_bind]
      dsimp only
      rw [service?_asPaths]
      cases roster.service? (key.getD .null) with
      | some service => rfl
      | none =>
        -- the service is new on both sides, and a new one is its own translation
        have hnew := newService_asPaths version tag
        dsimp only [Option.map_none]
        cases hservice : newService version tag with
        | error e => rfl
        | ok service =>
          rw [hservice] at hnew
          exact congrArg (Except.map (Prod.mk (key.getD .null))) hnew

/-! ## One operation, and all of them -/

/-- A service with one method more is translated method by method. -/
theorem withMethod_asPaths (service : Service) (m : Method) :
    withMethod service.asPaths m.asPaths = (withMethod service m).asPaths := by
  rw [withMethod, withMethod, Service.asPaths, Service.asPaths, List.map_append]
  rfl

section Run

variable {spec spec' : Value.Entries} (hspec : SharedWith spec spec') (o : Options)

include hspec

/-- **A translated operation is added to a translated roster.** The steps are taken side by side:
the service, the name that is asked for, and the method without its name. Where one fails the
other does. -/
theorem add_asPaths (roster : Roster) {op : Operation} (hop : PlainOperation op.node)
    (hshared : op.shared = .list []) :
    roster.asPaths.add .paths spec' o none op.asPaths =
      (roster.add .listing spec o none op).map Roster.asPaths := by
  rw [Roster.add, Roster.add, Operation.asPaths, serviceOf_asPaths o none roster hop, map_bind]
  cases serviceOf o none roster op.node with
  | error e => rfl
  | ok filed =>
    have hbase := base_asPaths filed.2 hop
    have hunnamed := unnamed_asPaths hspec o hop hshared
    rw [Operation.asPaths] at hbase hunnamed
    rw [ok_bind, ok_bind, hbase, hunnamed]
    cases op.base .listing filed.2 with
    | error e => rfl
    | ok base =>
      rw [ok_bind, ok_bind, map_bind]
      cases op.unnamed .listing spec o with
      | error e => rfl
      | ok method =>
        rw [ok_bind, ok_bind, Service.methodNames_asPaths]
        -- the same name is free in both, since a translation leaves names as they are
        refine congrArg Except.ok ?_
        rw [← put_asPaths, ← withMethod_asPaths]
        rfl

/-- **A run over translated operations comes to the translated roster.** -/
theorem foldlM_add_asPaths {ops : List Operation}
    (hops : ∀ op ∈ ops, PlainOperation op.node ∧ op.shared = .list []) (roster : Roster) :
    (ops.map Operation.asPaths).foldlM (Roster.add .paths spec' o none) roster.asPaths =
      (ops.foldlM (Roster.add .listing spec o none) roster).map Roster.asPaths :=
  foldlM_map_eq_map (fun roster op hop =>
    add_asPaths hspec o roster (hops op hop).1 (hops op hop).2) roster

end Run

end Decoding

end ApiOutline
