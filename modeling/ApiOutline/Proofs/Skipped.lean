/-
Parameters that are skipped.

An entry of a list of parameters makes no parameter if it says that it is left out, if it is for a
proxy to fill in and the caller does not ask for such parameters, or if it is a reference that leads
nowhere and is passed over (`IsSkipped`). These are the entries that have no node to make a
parameter of, and there are no others (`sourceOf_eq_none_iff`).

So such entries can be deleted, any of them, at operations and at paths: the description comes to
the same. And if it comes to an outline, every entry that is left when all of them are deleted has
its own parameter, in order, those of the operation before those of its path.
-/
import ApiOutline.Proofs.Editing
import ApiOutline.Proofs.Methods
import ApiOutline.Proofs.Parameter.Constraints

set_option autoImplicit false

namespace ApiOutline.Decoding

open Outcome Value

/-! ## Entries without a node -/

section Skipped

variable (spec : Value.Entries) (o : Options)

/-- A reference that leads nowhere and is passed over. -/
structure Lost (target : String) : Prop where
  lenient : o.strictRefs.truthy = false
  missing : ((spec.get "parameters").orElse (.object [])).fieldAt (referenceName target) =
    .ok .null

/-- An entry that makes no parameter. Only what is exactly true leaves an entry out, while anything
that counts as present makes it one for a proxy. -/
inductive IsSkipped (node : Value) : Prop where
  | excluded (hexcluded : node.field "x-exclude-from-bindings" = .ok (.bool true))
  | proxied {marker : Value} (hmarker : node.field "x-proxy-header" = .ok marker)
      (hpresent : marker.truthy = true) (hoff : o.proxyHeaders.truthy = false)
  | lost {target : String} (hreference : node.field "$ref" = .ok (.str target))
      (hlost : Lost spec o target)

variable {spec o} {place : String} {node : Value}

/-- A reference comes to nothing just when it is lost: nothing stands under its name, and the
caller did not want to be strict. -/
theorem resolve_eq_none_iff {target : String} :
    (resolve spec o target place).outcome = .ok none ↔ Lost spec o target := by
  rw [resolve, Trace.outcome_bind, Trace.outcome_liftM]
  constructor
  · intro h
    obtain ⟨shared, hshared, h⟩ := bind_eq_ok_iff.1 h
    -- what is missing is found as null
    by_cases hnull : shared.isNull = true
    · rw [if_pos hnull] at h
      by_cases hstrict : o.strictRefs.truthy = true
      · rw [if_pos hstrict] at h
        cases h
      · exact ⟨Bool.not_eq_true _ ▸ hstrict, by rw [hshared, isNull_iff.1 hnull]⟩
    · rw [if_neg hnull] at h
      cases h
  · intro h
    rw [h.missing, ok_bind, if_pos (isNull_iff.2 rfl), if_neg (h.lenient ▸ Bool.false_ne_true)]
    rfl

/-- An entry that is left out says so, or is for a proxy. To say so takes the truth and nothing
else. For a proxy is whatever has a mark that does not count as absent, where the options do not
ask for such headers. -/
theorem isLeftOut_eq_true_iff : isLeftOut o node = .ok true ↔
    node.field "x-exclude-from-bindings" = .ok (.bool true) ∨
      ∃ marker, node.field "x-proxy-header" = .ok marker ∧ marker.truthy = true ∧
        o.proxyHeaders.truthy = false := by
  rw [isLeftOut]
  constructor
  · intro h
    obtain ⟨excluded, hexcluded, h⟩ := bind_eq_ok_iff.1 h
    split at h
    · exact .inl hexcluded
    · obtain ⟨marker, hmarker, h⟩ := bind_eq_ok_iff.1 h
      obtain ⟨hpresent, hoff⟩ := Bool.and_eq_true_iff.1 (Except.ok.inj h)
      exact .inr ⟨marker, hmarker, hpresent, by simpa using hoff⟩
  · rintro (hexcluded | ⟨marker, hmarker, hpresent, hoff⟩)
    · rw [hexcluded]
      rfl
    · -- an object that has the one field can be asked for the other
      obtain ⟨es, hes⟩ := exists_entries_of_field hmarker
      rw [field_of_entries hes, ok_bind]
      split
      · rfl
      · rw [hmarker, ok_bind, hpresent, hoff]
        rfl

/-- **The entries that are skipped are those without a node.** An entry can be left out in two
ways, and besides its reference can lead nowhere. If both is the case it is left out before the
reference is followed, which comes to the same. -/
theorem sourceOf_eq_none_iff : sourceOf spec o place node = .ok none ↔ IsSkipped spec o node := by
  constructor
  · intro h
    obtain ⟨leftOut, hleftOut, h⟩ := bind_eq_ok_iff.1 h
    cases leftOut with
    | true =>
      -- two reasons to leave an entry out before its reference is looked at
      rcases isLeftOut_eq_true_iff.1 hleftOut with hexcluded | ⟨_, hmarker, hpresent, hoff⟩
      · exact .excluded hexcluded
      · exact .proxied hmarker hpresent hoff
    | false =>
      rw [if_neg Bool.false_ne_true] at h
      obtain ⟨reference, hreference, h⟩ := bind_eq_ok_iff.1 h
      split at h
      · exact .lost hreference (resolve_eq_none_iff.1 h)
      · exact nomatch Except.ok.inj h
  · intro h
    have hleft : isLeftOut o node = .ok true → sourceOf spec o place node = .ok none := by
      intro hleft
      rw [sourceOf, hleft]
      rfl
    cases h with
    | excluded hexcluded => exact hleft (isLeftOut_eq_true_iff.2 (.inl hexcluded))
    | proxied hmarker hpresent hoff =>
      exact hleft (isLeftOut_eq_true_iff.2 (.inr ⟨_, hmarker, hpresent, hoff⟩))
    | lost hreference hlost =>
      obtain ⟨es, hes⟩ := exists_entries_of_field hreference
      obtain ⟨leftOut, hleftOut⟩ := isLeftOut_of_entries (o := o) hes
      -- a lost reference may be left out besides, which comes to the same
      cases leftOut with
      | true => exact hleft hleftOut
      | false =>
        rw [sourceOf_of_reference hleftOut hreference]
        exact resolve_eq_none_iff.2 hlost

/-- An entry that is skipped makes no parameter, and does not make decoding fail. -/
theorem IsSkipped.outcome_eq (h : IsSkipped spec o node) :
    (pathsParameter spec o place node).outcome = .ok none := by
  rw [pathsParameter_outcome, sourceOf_eq_none_iff.2 h]
  rfl

end Skipped

/-! ## Lists without some of their entries -/

section Thinned

variable (P : Value → Prop)

/-- A list from which some entries of a kind are deleted. -/
inductive Thinned : List Value → List Value → Prop where
  | nil : Thinned [] []
  | keep (node : Value) {nodes kept : List Value} (h : Thinned nodes kept) :
      Thinned (node :: nodes) (node :: kept)
  | drop {node : Value} {nodes kept : List Value} (hnode : P node) (h : Thinned nodes kept) :
      Thinned (node :: nodes) kept

/-- A value that is a list, and the list from which some of its entries are deleted. -/
inductive ListThinned : Value → Value → Prop where
  | list {v : Value} {nodes kept : List Value} (hv : v.opened = .list nodes)
      (h : Thinned P nodes kept) : ListThinned v (.list kept)

end Thinned

section Deleting

variable {spec : Value.Entries} {o : Options}

/-- **Entries that are skipped can be deleted from a list.** The induction is on the deletion,
entry by entry, and those that stay are on both sides. -/
theorem Thinned.interchangeable {nodes kept : List Value}
    (h : Thinned (IsSkipped spec o) nodes kept) : Interchangeable spec o nodes kept := by
  induction h with
  | nil => exact .refl []
  | keep node _ ih => exact .cons (fun _ => rfl) ih
  | @drop node nodes kept hnode _ ih =>
    -- what is dropped would have made nothing, and could not have failed
    intro place
    rw [madeOf_cons, hnode.outcome_eq, ok_bind, ← ih place]
    exact bind_pure (madeOf spec o place nodes)

/-- A list may be written without the entries that are skipped: it makes the same parameters or
fails alike. -/
theorem ListThinned.restated {v w : Value} (h : ListThinned (IsSkipped spec o) v w) :
    Restated spec o v w := by
  cases h with
  | list hv h => exact .of_list hv h.interchangeable

/-- What is left when everything that is skipped is deleted has its nodes, one by one. By
induction along the entries and what they come to: an entry that comes to nothing is dropped, and
any other is kept with its node. -/
theorem exists_kept {place : String} {nodes : List Value} {found : List (Option Value)}
    (h : List.Forall₂ (fun node source => sourceOf spec o place node = .ok source) nodes found) :
    ∃ kept, Thinned (IsSkipped spec o) nodes kept ∧ (∀ node ∈ kept, ¬ IsSkipped spec o node) ∧
      List.Forall₂ (fun node source => sourceOf spec o place node = .ok (some source)) kept
        (found.filterMap id) := by
  induction h with
  | nil => exact ⟨[], .nil, fun _ h => absurd h List.not_mem_nil, .nil⟩
  | @cons node source _ _ hnode _ ih =>
    obtain ⟨kept, hthinned, hkept, hsources⟩ := ih
    -- what an entry comes to says whether it is kept
    cases source with
    | none => exact ⟨kept, .drop (sourceOf_eq_none_iff.1 hnode) hthinned, hkept, hsources⟩
    | some source =>
      refine ⟨node :: kept, .keep node hthinned, ?_, .cons hnode hsources⟩
      intro other hother
      rcases List.mem_cons.1 hother with rfl | hother
      · intro hskipped
        exact nomatch hnode.symm.trans (sourceOf_eq_none_iff.2 hskipped)
      · exact hkept other hother

end Deleting

/-! ## The description -/

/-- The parameters of a method are made of all entries that are not skipped: first of those that
its operation states, if they are a list, then of those of its path. -/
def Operation.MakesEach (spec : Value.Entries) (o : Options) (op : Operation) (m : Method) : Prop :=
  ∃ operation others kept, op.node.entries = .ok operation ∧ op.shared.elements = .ok others ∧
    Thinned (IsSkipped spec o) ((Entries.get operation "parameters").items ++ others) kept ∧
    (∀ node ∈ kept, ¬ IsSkipped spec o node) ∧
    List.Forall₂ (fun node p => ∃ source,
      sourceOf spec o (op.verb.text ++ " " ++ op.path.text) node = .ok (some source) ∧
        parameterOf .paths source = .ok p) kept m.parameters

/-- The nodes of which a method's parameters are made come one from each entry that is not
skipped, in order, and from no other. -/
theorem Operation.Makes.makesEach {spec : Value.Entries} {o : Options} {op : Operation}
    {m : Method} (h : op.Makes .paths spec o m) : op.MakesEach spec o m := by
  obtain ⟨sources, hsources, hparameters⟩ := h.parameters
  simp only [Operation.sources, bind_eq_ok_iff] at hsources
  obtain ⟨operation, hoperation, nodes, hnodes, found, hfound, hsources⟩ := hsources
  obtain rfl : found.filterMap id = sources := Except.ok.inj hsources
  rw [parameterNodes] at hnodes
  obtain ⟨others, hothers, hnodes⟩ := bind_eq_ok_iff.1 hnodes
  obtain rfl : (Entries.get operation "parameters").items ++ others = nodes := Except.ok.inj hnodes
  obtain ⟨kept, hthinned, hkept, hmade⟩ := exists_kept (mapM_eq_ok_iff.1 hfound)
  exact ⟨operation, others, kept, hoperation, hothers, hthinned, hkept,
    forall₂_trans hmade hparameters⟩

/-- **Parameters that are skipped might as well not be there, and no other is lost.** When entries
that are skipped are deleted from the lists of parameters of operations and paths, the description
comes to the same outline or the same failure. And in an outline every method has a parameter for
each entry that is not skipped. -/
theorem decode_thinned {es items items' : Value.Entries} {o : Options}
    (hd : (select (.object es)).outcome = .ok .paths)
    (hitems : ((es.get "paths").orElse (.object [])).entries = .ok items)
    (h : List.Forall₂ (ItemEdited (ListThinned (IsSkipped es o))) items items') :
    (decode (.object (es.set "paths" (.object items'))) o).outcome =
        (decode (.object es) o).outcome ∧
      ∀ s, (decode (.object es) o).outcome = .ok s →
        ∃ ops, operations (.object es) = .ok (.paths, ops) ∧
          EachMethod o ops s fun op m => op.MakesEach es o m := by
  constructor
  · refine decode_outcome_eq hd hitems (h.imp fun e f hef version roster => ?_)
    exact pathsItem_edited (hef.imp fun _ _ => ListThinned.restated) version roster
  · intro s hs
    obtain ⟨d, entries, ops, hentries, hops, hmakes⟩ := decode_makes hs
    obtain rfl : es = entries := Except.ok.inj hentries
    obtain rfl : d = .paths := by
      simp only [operations, hd, ok_bind, bind_eq_ok_iff] at hops
      obtain ⟨_, _, _, _, hops⟩ := hops
      exact (Prod.mk.inj (Except.ok.inj hops)).1.symm
    exact ⟨ops, hops, hmakes.imp fun _ _ => Operation.Makes.makesEach⟩

/-- A parameter that travels in the query. -/
def pageEntry : Value :=
  .ofFields [("name", .str "page"), ("in", .str "query")]

/-- A parameter that says that it is left out. -/
def hiddenEntry : Value :=
  .ofFields [("name", .str "key"), ("x-exclude-from-bindings", .bool true)]

/-- A parameter for a proxy to fill in. -/
def proxyEntry : Value :=
  .ofFields [("name", .str "token"), ("x-proxy-header", .str "Authorization")]

/-- A reference that leads nowhere. -/
def lostEntry : Value :=
  .ofFields [("$ref", .str "#/parameters/nowhere")]

/-- What an operation with these parameters says. -/
def fetching (own : List Value) : Value.Entries :=
  [(.str "operationId", .str "fetch"), (.str "parameters", .list own)]

/-- A path with that operation, and with other parameters for all of its operations. -/
def libraryItems (own shared : List Value) : Value.Entries :=
  [(.str "/books", .object [(.str "get", .object (fetching own)),
    (.str "Parameters", .list shared)])]

/-- A description with that path. -/
def library (own shared : List Value) : Value.Entries :=
  [(.str "swagger", .str "2.0"), (.str "info", .object []),
    (.str "paths", .object (libraryItems own shared))]

/-- A description in which two entries of four are skipped at the operation, and one of two at the
path. -/
def crowdedLibrary : Value.Entries :=
  library [pageEntry, hiddenEntry, pageEntry, lostEntry] [proxyEntry, pageEntry]

/-- The path of the library is edited when its two lists are. -/
theorem itemEdited_libraryItems {R : Value → Value → Prop} {own own' shared shared' : List Value}
    (hown : R (.list own) (.list own')) (hshared : R (.list shared) (.list shared')) :
    List.Forall₂ (ItemEdited R) (libraryItems own shared) (libraryItems own' shared') := by
  have hget : EntryEdited R (.str "get", .object (fetching own))
      (.str "get", .object ((fetching own).set "parameters" (.list own'))) :=
    .operation rfl rfl hown
  exact .cons (.item rfl (.cons hget (.cons (.shared rfl hshared) .nil))) .nil

/-- The crowded library is decoded like the one without its three skipped entries, and each of the
three that are left makes a parameter. -/
theorem decode_thinned_library :
    (select (.object crowdedLibrary)).outcome = .ok .paths ∧
      (decode (.object (library [pageEntry, pageEntry] [pageEntry])) {}).outcome =
        (decode (.object crowdedLibrary) {}).outcome ∧
      ∃ s, (decode (.object crowdedLibrary) {}).outcome = .ok s ∧
        ∃ ops, operations (.object crowdedLibrary) = .ok (.paths, ops) ∧
          EachMethod {} ops s fun op m => op.MakesEach crowdedLibrary {} m := by
  have hdialect : (select (.object crowdedLibrary)).outcome = .ok .paths := rfl
  have hown : Thinned (IsSkipped crowdedLibrary {}) [pageEntry, hiddenEntry, pageEntry, lostEntry]
      [pageEntry, pageEntry] :=
    .keep _ (.drop (.excluded rfl) (.keep _ (.drop (.lost rfl ⟨rfl, rfl⟩) .nil)))
  have hshared : Thinned (IsSkipped crowdedLibrary {}) [proxyEntry, pageEntry] [pageEntry] :=
    .drop (.proxied rfl rfl rfl) (.keep _ .nil)
  obtain ⟨hsame, heach⟩ := decode_thinned (o := {}) hdialect rfl
    (itemEdited_libraryItems (.list rfl hown) (.list rfl hshared))
  obtain ⟨s, hs⟩ : ∃ s, (decode (.object crowdedLibrary) {}).outcome = .ok s :=
    exists_of_isOk (by decide +kernel)
  exact ⟨hdialect, hsame, s, hs, heach s hs⟩

end ApiOutline.Decoding
