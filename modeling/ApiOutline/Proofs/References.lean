/-
References to parameters, and what they lead to.

A parameter may be a reference to a node that is shared. The node may as well be written where the
reference stands, and the description comes to the same, if the node says the same by itself
(`SelfContained`): it is not to be left out, and if it is a reference again, it refers to itself.

That there are conditions comes from the order in which an entry is looked at. Whether it is left
out is asked first, and asked of the entry as it is written; a reference does not say so, whatever
the node says that it leads to. And a node that was referred to is taken as it is, so a reference in
it is not followed. A node of the other kind is a different parameter in the two places, or is one
in one place only (`not_decode_inlined`).
-/
import ApiOutline.Proofs.Editing
import ApiOutline.Proofs.Methods

set_option autoImplicit false

namespace ApiOutline.Decoding

open Outcome Value

/-! ## In place of references -/

section Inlined

variable (spec : Value.Entries) (o : Options)

/-- A reference that leads to a node, wherever it stands. -/
def Leads (target : String) (node : Value) : Prop :=
  ∀ place, (resolve spec o target place).outcome = .ok (some node)

/-- A node that says the same by itself as when it is referred to: it is not left out, and if it is
a reference it leads to itself. -/
structure SelfContained (node : Value) : Prop where
  kept : isLeftOut o node ≠ .ok true
  reference : ∀ target, node.field "$ref" = .ok (.str target) → Leads spec o target node

variable (P : Value → Prop)

/-- A parameter and what is written for it: the same, or for a reference the node that it leads to,
if that is of the right kind. -/
inductive Inlined : Value → Value → Prop where
  | same (node : Value) : Inlined node node
  | node {target : String} {node : Value} (hleads : Leads spec o target node) (hnode : P node) :
      Inlined (.object [(.str "$ref", .str target)]) node

/-- Parameters and what is written for them. -/
inductive ListInlined : Value → Value → Prop where
  | same (v : Value) : ListInlined v v
  | list {v : Value} {nodes nodes' : List Value} (hnodes : v.opened = .list nodes)
      (h : List.Forall₂ (Inlined spec o P) nodes nodes') : ListInlined v (.list nodes')

/-- An entry of a path and what is written for it: an operation with other parameters, or other
parameters of the path. -/
inductive EntryInlined : Scalar × Value → Scalar × Value → Prop where
  | same (e : Scalar × Value) : EntryInlined e e
  | operation {key : Scalar} {node own : Value} {operation : Value.Entries}
      (hkey : isVerb key = true) (hnode : node.entries = .ok operation)
      (h : ListInlined spec o P (operation.get "parameters") own) :
      EntryInlined (key, node) (key, .object (operation.set "parameters" own))
  | shared {key : String} {v w : Value} (hkey : Text.lower key = "parameters")
      (h : ListInlined spec o P v w) : EntryInlined (.str key, v) (.str key, w)

/-- A path and what is written for it. -/
inductive ItemInlined : Scalar × Value → Scalar × Value → Prop where
  | same (e : Scalar × Value) : ItemInlined e e
  | item {path : Scalar} {v : Value} {es fs : Value.Entries} (hes : v.entries = .ok es)
      (h : List.Forall₂ (EntryInlined spec o P) es fs) : ItemInlined (path, v) (path, .object fs)

end Inlined

/-! ## The same parameters -/

section Parameters

variable {spec : Value.Entries} {o : Options}

/-- What is no object is no parameter, and fails alike wherever it stands. -/
theorem pathsParameter_of_entries_error {node : Value} {e : Fault} (h : node.entries = .error e)
    (place : String) :
    (pathsParameter spec o place node).outcome = (parameterOf .paths node).map some := by
  have hfield : ∀ name, node.field name = .error e := by
    intro name
    rw [field_eq_map_entries, h]
    rfl
  have hleftOut : isLeftOut o node = .error e := by
    rw [isLeftOut, hfield]
    rfl
  have hparameter : parameterOf .paths node = .error e := by
    rw [parameterOf, hfield]
    rfl
  rw [pathsParameter, Trace.outcome_bind, Trace.outcome_liftM, hleftOut, hparameter]
  rfl

/-- A reference is the parameter that it leads to. -/
theorem pathsParameter_of_leads {node shared : Value} {target : String}
    (hkept : isLeftOut o node = .ok false) (hreference : node.field "$ref" = .ok (.str target))
    (hleads : Leads spec o target shared) (place : String) :
    (pathsParameter spec o place node).outcome = (parameterOf .paths shared).map some := by
  rw [pathsParameter_outcome, sourceOf_of_reference hkept hreference, hleads place]
  rfl

/-- What is no reference is the parameter that it states. -/
theorem pathsParameter_of_field {node reference : Value} (hkept : isLeftOut o node = .ok false)
    (hreference : node.field "$ref" = .ok reference) (hne : ∀ target, reference ≠ .str target)
    (place : String) :
    (pathsParameter spec o place node).outcome = (parameterOf .paths node).map some := by
  rw [pathsParameter_outcome, sourceOf_of_field hkept hreference hne]
  rfl

/-- **A node that says the same by itself is the parameter that a reference to it is.** A
reference is followed one step. So if the node refers to something itself, this is followed only
where it stands alone, and it has to lead back to the node. -/
theorem pathsParameter_inlined {a b : Value} (h : Inlined spec o (SelfContained spec o) a b)
    (place : String) :
    (pathsParameter spec o place a).outcome = (pathsParameter spec o place b).outcome := by
  cases h with
  | same => rfl
  | @node target _ hleads hnode =>
    -- a reference says nothing by which it could be left out, so it is followed
    have hreferred : (pathsParameter spec o place (.object [(.str "$ref", .str target)])).outcome =
        (parameterOf .paths b).map some := pathsParameter_of_leads rfl rfl hleads place
    rw [hreferred]
    cases hentries : b.entries with
    | error e => exact (pathsParameter_of_entries_error hentries place).symm
    | ok es =>
      obtain ⟨leftOut, hleftOut⟩ := isLeftOut_of_entries (o := o) hentries
      have hkept : isLeftOut o b = .ok false := by
        cases leftOut with
        | true => exact absurd hleftOut hnode.kept
        | false => exact hleftOut
      have hfield := field_of_entries hentries "$ref"
      -- where the node stands by itself its own reference is followed, and that leads back to it
      by_cases htext : ∃ own, Value.Entries.get es "$ref" = .str own
      · obtain ⟨own, hown⟩ := htext
        rw [hown] at hfield
        exact (pathsParameter_of_leads hkept hfield (hnode.reference own hfield) place).symm
      · exact (pathsParameter_of_field hkept hfield (not_exists.1 htext) place).symm

end Parameters

/-! ## The same paths -/

section Paths

variable {spec : Value.Entries} {o : Options}

/-- Lists of parameters come to the same when the nodes are written for references to them. -/
theorem ListInlined.restated {v w : Value} (h : ListInlined spec o (SelfContained spec o) v w) :
    Restated spec o v w := by
  cases h with
  | same => exact .refl v
  | list hnodes h =>
    refine .of_list hnodes fun place => ?_
    have hparameters := mapM_eq_of_forall₂ (h.imp fun _ _ h => pathsParameter_inlined h place)
    rw [madeOf, madeOf, hparameters]

/-- An entry with nodes written in place of references is an entry with other lists of parameters,
which make the same. -/
theorem EntryInlined.edited {e f : Scalar × Value}
    (h : EntryInlined spec o (SelfContained spec o) e f) : EntryEdited (Restated spec o) e f := by
  cases h with
  | same => exact .same e
  | operation hkey hnode h => exact .operation hkey hnode h.restated
  | shared hkey h => exact .shared hkey h.restated

/-- So a path does the same to every roster when nodes are written in place of references to them.
-/
theorem pathsItem_inlined {e f : Scalar × Value}
    (h : ItemInlined spec o (SelfContained spec o) e f) (version : Option String)
    (roster : Roster) :
    (pathsItem spec o version roster e).outcome = (pathsItem spec o version roster f).outcome := by
  cases h with
  | same => rfl
  | item hes hentries =>
    exact pathsItem_edited (.item hes (hentries.imp fun _ _ => EntryInlined.edited)) version roster

end Paths

/-! ## The description -/

/-- **A description comes to the same when nodes are written in place of references to them**, if
they say the same by themselves: neither to be left out, nor to be looked up elsewhere. Whatever
else a node holds, the two descriptions have the same outcome, be it an outline or a failure. -/
theorem decode_inlined {es items items' : Value.Entries} {o : Options}
    (hd : (select (.object es)).outcome = .ok .paths)
    (hitems : ((es.get "paths").orElse (.object [])).entries = .ok items)
    (h : List.Forall₂ (ItemInlined es o (SelfContained es o)) items items') :
    (decode (.object (es.set "paths" (.object items'))) o).outcome =
      (decode (.object es) o).outcome :=
  decode_outcome_eq hd hitems (h.imp fun _ _ => pathsItem_inlined)

/-- A node that says the same by itself. -/
def pageNode : Value :=
  .ofFields [("name", .str "page"), ("in", .str "query")]

/-- A node that is to be left out. -/
def keyNode : Value :=
  .ofFields [("name", .str "key"), ("x-exclude-from-bindings", .bool true)]

/-- A node that is a reference to another one. -/
def chainNode : Value :=
  .ofFields [("name", .str "chain"), ("$ref", .str "page")]

/-- What an operation with one parameter says. -/
def operationWith (parameter : Value) : Value.Entries :=
  [(.str "operationId", .str "fetch"), (.str "parameters", .list [parameter])]

/-- A path with that operation. -/
def pathWith (parameter : Value) : Value.Entries :=
  [(.str "/books", .object [(.str "get", .object (operationWith parameter))])]

/-- A description with that path, and with the three nodes as shared parameters. -/
def descriptionWith (parameter : Value) : Value.Entries :=
  [(.str "swagger", .str "2.0"), (.str "info", .object []),
    (.str "parameters", .ofFields [("page", pageNode), ("key", keyNode), ("chain", chainNode)]),
    (.str "paths", .object (pathWith parameter))]

/-- A reference to a shared parameter. -/
def referenceTo (target : String) : Value :=
  .object [(.str "$ref", .str target)]

/-- The one path of these descriptions, with a node written in place of the reference to it. -/
theorem itemInlined_pathWith {spec : Value.Entries} {o : Options} {P : Value → Prop}
    {target : String} {node : Value} (hleads : Leads spec o target node) (hnode : P node) :
    List.Forall₂ (ItemInlined spec o P) (pathWith (referenceTo target)) (pathWith node) := by
  have hlist : ListInlined spec o P (.list [referenceTo target]) (.list [node]) :=
    .list rfl (.cons (.node hleads hnode) .nil)
  have hset : (operationWith (referenceTo target)).set "parameters" (.list [node]) =
      operationWith node := rfl
  have hoperation : EntryInlined spec o P
      (.str "get", .object (operationWith (referenceTo target)))
      (.str "get", .object (operationWith node)) := by
    rw [← hset]
    exact .operation rfl rfl hlist
  exact .cons (.item rfl (.cons hoperation .nil)) .nil

/-- A shared parameter that says by itself what it is, written in place of the reference to it. -/
theorem decode_inlined_pageNode :
    SelfContained (descriptionWith (referenceTo "#/parameters/page")) {} pageNode ∧
      (decode (.object (descriptionWith pageNode)) {}).outcome =
        (decode (.object (descriptionWith (referenceTo "#/parameters/page"))) {}).outcome := by
  have hcontained : SelfContained (descriptionWith (referenceTo "#/parameters/page")) {} pageNode :=
    ⟨fun h => (nomatch h), fun _ h => (nomatch h)⟩
  have hleads : Leads (descriptionWith (referenceTo "#/parameters/page")) {} "#/parameters/page"
      pageNode := fun _ => rfl
  have hdialect : (select (.object (descriptionWith (referenceTo "#/parameters/page")))).outcome =
      .ok .paths := rfl
  exact ⟨hcontained, decode_inlined hdialect rfl (itemInlined_pathWith hleads hcontained)⟩

/-! ## Both conditions are needed -/

/-- Nodes of some kind can be written in place of references to them. -/
def Transparent (P : Value.Entries → Options → Value → Prop) : Prop :=
  ∀ (es items items' : Value.Entries) (o : Options),
    (select (.object es)).outcome = .ok .paths →
    ((es.get "paths").orElse (.object [])).entries = .ok items →
    List.Forall₂ (ItemInlined es o (P es o)) items items' →
    (decode (.object (es.set "paths" (.object items'))) o).outcome =
      (decode (.object es) o).outcome

/-- The names of the parameters of an outline. -/
def parameterNames (outcome : Except Fault Summary) : Option (List String) :=
  outcome.toOption.map fun s =>
    s.services.flatMap fun service => service.methods.flatMap fun m => m.parameters.map (·.name)

/-- Nodes of a kind cannot be written in place of references if for one of them the outlines have
other parameters. This is how all three of the examples below are refuted. -/
theorem not_transparent {P : Value.Entries → Options → Value → Prop} {target : String}
    {node : Value} (hleads : Leads (descriptionWith (referenceTo target)) {} target node)
    (hnode : P (descriptionWith (referenceTo target)) {} node)
    (hnames : parameterNames (decode (.object (descriptionWith node)) {}).outcome ≠
      parameterNames (decode (.object (descriptionWith (referenceTo target))) {}).outcome) :
    ¬ Transparent P := by
  intro h
  have hsame := h (descriptionWith (referenceTo target)) _ _ {} rfl rfl
    (itemInlined_pathWith hleads hnode)
  exact hnames (congrArg parameterNames hsame)

/-- Not every node can be written in place of a reference to it, not even every one that is not
left out, and not every one that is no reference to another one. A node that is to be left out is
left out where it stands by itself, and kept where it is referred to; and one that refers to
another one is looked up once more. -/
theorem not_decode_inlined :
    ¬ Transparent (fun _ _ _ => True) ∧
      ¬ Transparent (fun _ o node => isLeftOut o node ≠ .ok true) ∧
      ¬ Transparent fun spec o node =>
        ∀ target, node.field "$ref" = .ok (.str target) → Leads spec o target node := by
  have hkey : Leads (descriptionWith (referenceTo "#/parameters/key")) {} "#/parameters/key"
      keyNode := fun _ => rfl
  have hchain : Leads (descriptionWith (referenceTo "#/parameters/chain")) {} "#/parameters/chain"
      chainNode := fun _ => rfl
  refine ⟨?_, ?_, ?_⟩
  · exact not_transparent hkey trivial (by decide +kernel)
  · exact not_transparent hchain (fun h => nomatch h) (by decide +kernel)
  · exact not_transparent hkey (fun _ h => nomatch h) (by decide +kernel)

end ApiOutline.Decoding
