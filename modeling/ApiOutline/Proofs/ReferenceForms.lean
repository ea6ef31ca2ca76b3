/-
The forms in which references are written.

There are two forms for a reference to a shared parameter: its name, or its name behind
`#/parameters/` (`Refers`). A reference in one of them leads to what stands under the name, and if
nothing stands there it leads nowhere.

But the form is not what is looked at. A reference is cut at its slashes, and the number of pieces
decides where its name is (`LooksUp`): if there is one piece it is that, from three on it is the
third, and two have none. So what is written in no form may lead somewhere too, if it has a piece
in the right place that happens to be a name: a reference to another container, one to another
document, and one that goes on behind the name. A reference is followed as the forms say just when
it has one of them or leads nowhere (`AsWritten`, `Finds.means_iff`).

What an entry comes to is told for all entries of all outlines (`decode_followed`), and next to it
when that is what the forms say. For not every entry it is (`not_followed_as_written`).
-/
import ApiOutline.Proofs.References
import ApiOutline.Proofs.Skipped
import ApiOutline.Proofs.Strictness
import ApiOutline.Proofs.Told

set_option autoImplicit false

namespace ApiOutline.Decoding

open Outcome Value

/-! ## Two forms, and what is looked up -/

/-- A reference in one of the two forms, and the name in it. -/
inductive Refers : String → String → Prop where
  | plain {name : String} (h : '/' ∉ name.toList) : Refers name name
  | full {name : String} (h : '/' ∉ name.toList) : Refers ("#/parameters/" ++ name) name

/-- Any reference, and the key under which it looks. -/
inductive LooksUp : String → Scalar → Prop where
  | whole {name : String} (h : '/' ∉ name.toList) : LooksUp name (.str name)
  | nothing {a b : String} (ha : '/' ∉ a.toList) (hb : '/' ∉ b.toList) :
      LooksUp (a ++ "/" ++ b) .null
  | third {a b name : String} (ha : '/' ∉ a.toList) (hb : '/' ∉ b.toList)
      (hname : '/' ∉ name.toList) : LooksUp (a ++ "/" ++ b ++ "/" ++ name) (.str name)
  | further {a b name rest : String} (ha : '/' ∉ a.toList) (hb : '/' ∉ b.toList)
      (hname : '/' ∉ name.toList) :
      LooksUp (a ++ "/" ++ b ++ "/" ++ name ++ "/" ++ rest) (.str name)

/-- A text with no slash in front of the first one is the first piece, and the others are the
pieces of what follows. -/
theorem splitAt_slash {a : String} (ha : '/' ∉ a.toList) (rest : String) :
    Text.splitAt '/' (a ++ "/" ++ rest).toList = a.toList :: Text.splitAt '/' rest.toList := by
  have hlist : (a ++ "/" ++ rest).toList = a.toList ++ '/' :: rest.toList := by
    rw [String.toList_append, String.toList_append, List.append_assoc]
    rfl
  rw [hlist, Text.splitAt_append, Text.splitAt_of_not_mem ha]
  rfl

/-- A text has no slash, or something stands before its first one. -/
theorem exists_slash (s : String) :
    '/' ∉ s.toList ∨ ∃ a rest : String, '/' ∉ a.toList ∧ s = a ++ "/" ++ rest := by
  by_cases h : '/' ∈ s.toList
  · obtain ⟨front, back, hs, hfront⟩ := List.eq_append_cons_of_mem h
    refine .inr ⟨String.ofList front, String.ofList back, ?_, ?_⟩
    · rw [String.toList_ofList]
      exact hfront
    · have hslash : "/".toList = ['/'] := rfl
      rw [← String.toList_inj, String.toList_append, String.toList_append, hslash,
        String.toList_ofList, String.toList_ofList, hs, List.append_assoc, List.singleton_append]
  · exact .inl h

/-- The first piece is cut off, whatever the others are. -/
theorem LooksUp.referenceName_eq {target : String} {key : Scalar} (h : LooksUp target key) :
    referenceName target = key := by
  rw [referenceName]
  cases h with
  | whole h =>
    rw [Text.splitAt_of_not_mem h]
    exact congrArg Scalar.str String.ofList_toList
  | nothing ha hb => rw [splitAt_slash ha, Text.splitAt_of_not_mem hb]
  | @third a b name ha hb hname =>
    have hassoc : a ++ "/" ++ b ++ "/" ++ name = a ++ "/" ++ (b ++ "/" ++ name) := by
      simp only [String.append_assoc]
    rw [hassoc, splitAt_slash ha, splitAt_slash hb, Text.splitAt_of_not_mem hname]
    exact congrArg Scalar.str String.ofList_toList
  | @further a b name rest ha hb hname =>
    have hassoc : a ++ "/" ++ b ++ "/" ++ name ++ "/" ++ rest =
        a ++ "/" ++ (b ++ "/" ++ (name ++ "/" ++ rest)) := by
      simp only [String.append_assoc]
    rw [hassoc, splitAt_slash ha, splitAt_slash hb, splitAt_slash hname]
    exact congrArg Scalar.str String.ofList_toList

/-- **The key under which a reference looks is told by the number of its pieces.** A text has one
piece, two, three or more, and each of the four ways in which `LooksUp` writes one is found by
cutting at the first slash as often as there is one. -/
theorem looksUp_iff {target : String} {key : Scalar} :
    LooksUp target key ↔ referenceName target = key := by
  -- every text is in one of the four forms, and a form determines the key
  have hsome : ∃ key, LooksUp target key := by
    rcases exists_slash target with h | ⟨a, rest, ha, rfl⟩
    · exact ⟨_, .whole h⟩
    rcases exists_slash rest with h | ⟨b, rest, hb, rfl⟩
    · exact ⟨_, .nothing ha h⟩
    rcases exists_slash rest with h | ⟨name, rest, hname, rfl⟩
    · have hthird := LooksUp.third ha hb h
      simp only [String.append_assoc] at hthird ⊢
      exact ⟨_, hthird⟩
    · have hfurther : LooksUp (a ++ "/" ++ b ++ "/" ++ name ++ "/" ++ rest) (.str name) :=
        .further ha hb hname
      simp only [String.append_assoc] at hfurther ⊢
      exact ⟨_, hfurther⟩
  obtain ⟨found, hfound⟩ := hsome
  constructor
  · exact LooksUp.referenceName_eq
  · rintro rfl
    rw [hfound.referenceName_eq]
    exact hfound

/-- What has a slash and does not go on with a name behind `#/parameters/` is in neither form. -/
theorem not_refers {target : String} (hslash : '/' ∈ target.toList)
    (hbehind : (Text.after? "#/parameters/".toList target.toList).all (·.contains '/') = true)
    (name : String) : ¬ Refers target name := by
  intro h
  cases h with
  | plain h => exact h hslash
  | full h =>
    rw [String.toList_append, Text.after?_append, Option.all_some] at hbehind
    exact h (List.contains_iff_mem.1 hbehind)

/-- A reference in one of the two forms looks under the name that it writes: as its only piece, or
as its third behind `#` and `parameters`. -/
theorem Refers.looksUp {target name : String} (h : Refers target name) :
    LooksUp target (.str name) := by
  cases h with
  | plain h => exact .whole h
  | full h =>
    have hthird := LooksUp.third (a := "#") (b := "parameters") (by decide) (by decide) h
    exact hthird

/-! ## Where references lead -/

section Meaning

variable (spec : Value.Entries)

/-- The shared parameters of a description. -/
def sharedTable : Value :=
  (spec.get "parameters").orElse (.object [])

/-- What stands under the key under which a reference looks. -/
def Finds (target : String) (node : Value) : Prop :=
  (sharedTable spec).fieldAt (referenceName target) = .ok node ∧ node ≠ .null

/-- What a reference means by its form. -/
def Means (target : String) (node : Value) : Prop :=
  ∃ name, Refers target name ∧ (sharedTable spec).field name = .ok node ∧ node ≠ .null

/-- A reference in one of the two forms, or one that leads nowhere. -/
def AsWritten (target : String) : Prop :=
  (∃ name, Refers target name) ∨ ∀ node, ¬ Finds spec target node

variable {spec} {target : String}

/-- So what it finds is what the shared parameters hold under that name, null excepted. -/
theorem Refers.finds_iff {name : String} (h : Refers target name) {node : Value} :
    Finds spec target node ↔ (sharedTable spec).field name = .ok node ∧ node ≠ .null := by
  rw [Finds, looksUp_iff.1 h.looksUp]
  rfl

/-- A reference leads to what it means, if it means anything. -/
theorem Means.finds {node : Value} (h : Means spec target node) : Finds spec target node := by
  obtain ⟨name, hrefers, hnode⟩ := h
  exact hrefers.finds_iff.2 hnode

/-- A reference that is as it should be written and leads somewhere means what it leads to. -/
theorem AsWritten.means (h : AsWritten spec target) {node : Value}
    (hfinds : Finds spec target node) : Means spec target node := by
  rcases h with ⟨name, hrefers⟩ | hnone
  · exact ⟨name, hrefers, hrefers.finds_iff.1 hfinds⟩
  · exact absurd hfinds (hnone node)

/-- A reference that leads somewhere means that just when it is in one of the forms. -/
theorem Finds.means_iff {node : Value} (h : Finds spec target node) :
    Means spec target node ↔ AsWritten spec target := by
  constructor
  · rintro ⟨name, hrefers, -⟩
    exact .inl ⟨name, hrefers⟩
  · exact fun hwritten => hwritten.means h

/-! ## What is done with a reference -/

variable (spec) in
/-- What the two forms promise of a reference: it leads to what it means; if it means nothing, it is
passed over with a warning, or refused if the caller wants that. -/
structure Documented (o : Options) (target place : String) : Prop where
  found : ∀ node, Means spec target node → resolve spec o target place = pure (some node)
  passedOver : (∀ node, ¬ Means spec target node) → o.strictRefs.truthy = false →
    resolve spec o target place = (do
      Trace.tell (.skipped target place)
      return none)
  refused : (∀ node, ¬ Means spec target node) → o.strictRefs.truthy = true →
    resolve spec o target place =
      Trace.fail (.refused (.unresolvedReference (.str target) (.str place)))

variable {o : Options} {place : String}

/-- A reference is resolved to what it finds, in every run and without a notice. -/
theorem resolve_of_finds {node : Value} (h : Finds spec target node) :
    resolve spec o target place = pure (some node) := by
  have hnull : ¬ node.isNull = true := fun hnull => h.2 (isNull_iff.1 hnull)
  have hshared : ((spec.get "parameters").orElse (.object [])).fieldAt (referenceName target) =
      .ok node := h.1
  rw [resolve, hshared]
  exact if_neg hnull

/-- Where there is nothing under the key, it depends on the caller what is done. With strict
references the description is refused. Otherwise the entry is passed over, and that is told. -/
theorem resolve_of_not_finds {table : Value.Entries}
    (htable : (sharedTable spec).entries = .ok table) (hnone : ∀ node, ¬ Finds spec target node) :
    resolve spec o target place =
      if o.strictRefs.truthy then
        Trace.fail (.refused (.unresolvedReference (.str target) (.str place)))
      else do
        Trace.tell (.skipped target place)
        return none := by
  have hopened : (sharedTable spec).opened = .object table := entries_eq_ok_iff.1 htable
  have hfield : (sharedTable spec).fieldAt (referenceName target) =
      .ok ((lookup (referenceName target) table).getD .null) := by
    rw [fieldAt, hopened]
  have hnull : (lookup (referenceName target) table).getD .null = .null := by
    by_contra hne
    exact hnone _ ⟨hfield, hne⟩
  rw [hnull] at hfield
  have hshared : ((spec.get "parameters").orElse (.object [])).fieldAt (referenceName target) =
      .ok .null := hfield
  rw [resolve, hshared]
  rfl

/-- Shared parameters that are no object cannot be asked for anything. -/
theorem resolve_of_entries_error {e : Fault} (h : (sharedTable spec).entries = .error e) :
    resolve spec o target place = Trace.fail .noSuchOperation := by
  have hfield : ((spec.get "parameters").orElse (.object [])).fieldAt (referenceName target) =
      .error .noSuchOperation := by
    rw [entries] at h
    rw [fieldAt]
    split at h
    · cases h
    · next hne =>
      split
      · next es hopened => exact absurd hopened (hne es)
      · rfl
  rw [resolve, hfield]
  rfl

/-- What means nothing is passed over or refused, and nothing else. -/
theorem Documented.outcome_of_not_means (h : Documented spec o target place)
    (hnone : ∀ node, ¬ Means spec target node) :
    (resolve spec o target place).outcome = .ok none ∨
      (resolve spec o target place).outcome =
        .error (.refused (.unresolvedReference (.str target) (.str place))) := by
  cases hstrict : o.strictRefs.truthy with
  | true =>
    rw [h.refused hnone hstrict]
    exact .inr rfl
  | false =>
    rw [h.passedOver hnone hstrict]
    exact .inl rfl

/-- Where the shared parameters are no object, no promise about references can be kept. -/
theorem Documented.exists_table (h : Documented spec o target place) :
    ∃ table, (sharedTable spec).entries = .ok table := by
  cases hentries : (sharedTable spec).entries with
  | ok table => exact ⟨table, rfl⟩
  | error e =>
    -- a reference that fails is neither passed over nor refused
    have hnone : ∀ node, ¬ Means spec target node := by
      rintro node ⟨name, -, hfield, -⟩
      rw [field_eq_map_entries, hentries] at hfield
      exact nomatch hfield
    have hfails : (resolve spec o target place).outcome = .error .noSuchOperation :=
      congrArg Trace.outcome (resolve_of_entries_error hentries)
    rcases h.outcome_of_not_means hnone with hpassed | hrefused
    · exact nomatch hpassed.symm.trans hfails
    · exact nomatch hrefused.symm.trans hfails

/-- A reference in neither form means nothing, so that it may not lead anywhere. -/
theorem Documented.asWritten (h : Documented spec o target place) : AsWritten spec target := by
  by_cases hrefers : ∃ name, Refers target name
  · exact .inl hrefers
  · refine .inr fun node hfinds => ?_
    have hnone : ∀ node, ¬ Means spec target node := by
      rintro node ⟨name, hname, -⟩
      exact hrefers ⟨name, hname⟩
    have hleads : (resolve spec o target place).outcome = .ok (some node) :=
      congrArg Trace.outcome (resolve_of_finds hfinds)
    rcases h.outcome_of_not_means hnone with hpassed | hrefused
    · exact nomatch hpassed.symm.trans hleads
    · exact nomatch hrefused.symm.trans hleads

/-- A reference that is as it should be written is treated as its form promises, if the shared
parameters can be asked at all. Where it means nothing it finds nothing either, so it is passed
over or refused. -/
theorem AsWritten.documented {table : Value.Entries} (h : AsWritten spec target)
    (htable : (sharedTable spec).entries = .ok table) : Documented spec o target place := by
  have hnothing (hnone : ∀ node, ¬ Means spec target node) (node : Value) :
      ¬ Finds spec target node := fun hfinds => hnone node (h.means hfinds)
  refine ⟨fun node hmeans => resolve_of_finds hmeans.finds, ?_, ?_⟩
  · intro hnone hlenient
    rw [resolve_of_not_finds htable (hnothing hnone), hlenient]
    rfl
  · intro hnone hstrict
    rw [resolve_of_not_finds htable (hnothing hnone), hstrict]
    rfl

/-- **A reference is treated as its form promises just when it has one of the two forms or leads
nowhere**, in a description whose shared parameters are an object. -/
theorem documented_iff : Documented spec o target place ↔
    (∃ table, (sharedTable spec).entries = .ok table) ∧ AsWritten spec target := by
  constructor
  · exact fun h => ⟨h.exists_table, h.asWritten⟩
  · rintro ⟨⟨table, htable⟩, hwritten⟩
    exact hwritten.documented htable

end Meaning

/-! ## What an entry comes to -/

/-- What an entry of a list of parameters comes to, if references lead somewhere in the given way:
nothing if it is left out, itself if it is no reference, else what it leads to. A reference that
leads nowhere comes to nothing too, and is told. -/
inductive Followed (leads : String → Value → Prop) (o : Options) (place : String)
    (notices : List Notice) (node : Value) : Option Value → Prop where
  | leftOut (h : isLeftOut o node = .ok true) : Followed leads o place notices node none
  | itself {reference : Value} (hkept : isLeftOut o node = .ok false)
      (hreference : node.field "$ref" = .ok reference) (hne : ∀ target, reference ≠ .str target) :
      Followed leads o place notices node (some node)
  | found {target : String} {shared : Value} (hkept : isLeftOut o node = .ok false)
      (hreference : node.field "$ref" = .ok (.str target)) (h : leads target shared) :
      Followed leads o place notices node (some shared)
  | passedOver {target : String} (hkept : isLeftOut o node = .ok false)
      (hreference : node.field "$ref" = .ok (.str target)) (hnone : ∀ shared, ¬ leads target shared)
      (hlenient : o.strictRefs.truthy = false) (htold : .skipped target place ∈ notices) :
      Followed leads o place notices node none

section Entries

variable {spec : Value.Entries} {o : Options} {place : String} {node : Value}

/-- A reference that a run goes through leads to what is found, or the run tells of it. There is
no third way: shared parameters that are no object would have ended the run, and so would a
reference that leads nowhere in a strict one. -/
theorem found_of_passes {γ : Type} {whole : Trace γ} {target : String} {found : Option Value}
    (h : whole.Passes (resolve spec o target place) found) :
    (∃ shared, found = some shared ∧ Finds spec target shared) ∨
      found = none ∧ (∀ shared, ¬ Finds spec target shared) ∧ o.strictRefs.truthy = false ∧
        .skipped target place ∈ whole.notices := by
  have hok := h.outcome
  by_cases hfinds : ∃ shared, Finds spec target shared
  · obtain ⟨shared, hshared⟩ := hfinds
    rw [resolve_of_finds hshared] at hok
    exact .inl ⟨shared, (Except.ok.inj hok).symm, hshared⟩
  · have hnone : ∀ shared, ¬ Finds spec target shared := not_exists.1 hfinds
    cases htable : (sharedTable spec).entries with
    | error e =>
      rw [resolve_of_entries_error htable] at hok
      exact nomatch hok
    | ok table =>
      -- a strict run would have ended here
      cases hstrict : o.strictRefs.truthy with
      | true =>
        rw [resolve_of_not_finds htable hnone, hstrict] at hok
        exact nomatch hok
      | false =>
        rw [resolve_of_not_finds htable hnone, hstrict] at h
        exact .inr ⟨(Except.ok.inj h.outcome).symm, hnone, rfl, h.notices List.mem_cons_self⟩

/-- An entry that a run goes through comes to what is found there. The cases are the steps of the
decoder in their order: whether the entry is left out, whether it refers to something, and where
that leads. -/
theorem followed_of_passes {γ : Type} {whole : Trace γ} {made : Option Parameter}
    (h : whole.Passes (pathsParameter spec o place node) made) :
    ∃ source, sourceOf spec o place node = .ok source ∧
      Followed (Finds spec) o place whole.notices node source := by
  obtain ⟨leftOut, hleftOut, h⟩ := h.bind
  have hleftOut : isLeftOut o node = .ok leftOut := hleftOut.outcome
  cases leftOut with
  | true =>
    have hsource : sourceOf spec o place node = .ok none := by
      rw [sourceOf, hleftOut]
      rfl
    exact ⟨none, hsource, .leftOut hleftOut⟩
  | false =>
    obtain ⟨reference, hreference, h⟩ := h.bind
    have hreference : node.field "$ref" = .ok reference := hreference.outcome
    by_cases htext : ∃ target, reference = .str target
    · obtain ⟨target, rfl⟩ := htext
      obtain ⟨found, hresolve, -⟩ := h.bind
      have hsource : sourceOf spec o place node = .ok found :=
        (sourceOf_of_reference hleftOut hreference).trans hresolve.outcome
      refine ⟨found, hsource, ?_⟩
      rcases found_of_passes hresolve with ⟨shared, rfl, hshared⟩ | ⟨rfl, hnone, hlenient, htold⟩
      · exact .found hleftOut hreference hshared
      · exact .passedOver hleftOut hreference hnone hlenient htold
    · have hne : ∀ target, reference ≠ .str target := fun target heq => htext ⟨target, heq⟩
      exact ⟨some node, sourceOf_of_field hleftOut hreference hne, .itself hleftOut hreference hne⟩

/-- **An entry comes to what its form says just when its reference is as it should be written**, if
it is one. -/
theorem followed_means_iff {notices : List Notice} {source : Option Value}
    (h : Followed (Finds spec) o place notices node source) :
    Followed (Means spec) o place notices node source ↔
      (isLeftOut o node = .ok false → ∀ target, node.field "$ref" = .ok (.str target) →
        AsWritten spec target) := by
  have hsame {a b : String} (ha : node.field "$ref" = .ok (.str a))
      (hb : node.field "$ref" = .ok (.str b)) : a = b := by
    have heq : Value.str a = .str b := Except.ok.inj (ha.symm.trans hb)
    injection heq with heq
    injection heq
  -- what is left out and what is no reference follows no form at all
  cases h with
  | leftOut hleft =>
    constructor
    · intro _ hkept
      exact nomatch hleft.symm.trans hkept
    · intro _
      exact .leftOut hleft
  | itself hkept hreference hne =>
    constructor
    · intro _ _ target htarget
      exact absurd (Except.ok.inj (hreference.symm.trans htarget)) (hne target)
    · intro _
      exact .itself hkept hreference hne
  | found hkept hreference hfinds =>
    constructor
    · intro hmeans _ target htarget
      cases hmeans with
      | itself _ hother hne => exact absurd (Except.ok.inj (hother.symm.trans htarget)) (hne target)
      | found _ hother hmeans =>
        rw [hsame htarget hreference]
        rw [hsame hother hreference] at hmeans
        exact hfinds.means_iff.1 hmeans
    · intro hwritten
      exact .found hkept hreference ((hwritten hkept _ hreference).means hfinds)
  | passedOver hkept hreference hnone hlenient htold =>
    constructor
    · intro _ _ target htarget
      rw [hsame htarget hreference]
      exact .inr hnone
    · intro _
      exact .passedOver hkept hreference (fun shared hmeans => hnone shared hmeans.finds) hlenient
        htold

end Entries

/-! ## The description -/

namespace Operation

/-- Where an operation stands, as it is told. -/
def place (op : Operation) : String :=
  op.verb.text ++ " " ++ op.path.text

/-- A property of every entry of an operation and of what it comes to: first of those that the
operation states, then of those of its path. The parameters of the method are made of what the
entries come to. -/
def EachEntry (op : Operation) (m : Method) (P : Value → Option Value → Prop) : Prop :=
  ∃ operation entries found, op.node.entries = .ok operation ∧
    parameterNodes operation op.shared = .ok entries ∧ List.Forall₂ P entries found ∧
    List.Forall₂ (fun node p => parameterOf .paths node = .ok p) (found.filterMap id) m.parameters

/-- What is said of the entries of an operation may be weakened entry by entry. -/
theorem EachEntry.imp {op : Operation} {m : Method} {P Q : Value → Option Value → Prop}
    (h : op.EachEntry m P) (hPQ : ∀ node source, P node source → Q node source) :
    op.EachEntry m Q := by
  obtain ⟨operation, entries, found, hoperation, hentries, hfound, hparameters⟩ := h
  exact ⟨operation, entries, found, hoperation, hentries, hfound.imp hPQ, hparameters⟩

end Operation

/-- The entries of the operations of an outline come to what is found there. The run went through
each of them and the method is made of the same nodes, so the two can be put side by side. -/
theorem eachEntry_followed {es : Value.Entries} {o : Options} {s : Summary}
    (hd : (select (.object es)).outcome = .ok .paths)
    (h : (decode (.object es) o).outcome = .ok s) {op : Operation} (hop : op.FoundIn es .paths)
    {m : Method} (hm : op.Makes .paths es o m) :
    op.EachEntry m (Followed (Finds es) o op.place (decode (.object es) o).notices) := by
  obtain ⟨operation, entries, hoperation, hentries, hpasses⟩ := passes_pathsParameter hd h hop
  obtain ⟨sources, hsources, hparameters⟩ := hm.parameters
  simp only [Operation.sources, bind_eq_ok_iff] at hsources
  obtain ⟨operation', hoperation', entries', hentries', found, hfound, hsources⟩ := hsources
  obtain rfl : operation = operation' := Except.ok.inj (hoperation.symm.trans hoperation')
  obtain rfl : entries = entries' := Except.ok.inj (hentries.symm.trans hentries')
  obtain rfl : found.filterMap id = sources := Except.ok.inj hsources
  refine ⟨operation, entries, found, hoperation, hentries, ?_, hparameters⟩
  -- the run went through each entry, and what the entry comes to is what the method is made of
  have hboth := (List.forall₂_and_left _ _).2 ⟨hpasses, mapM_eq_ok_iff.1 hfound⟩
  refine hboth.imp ?_
  rintro node source ⟨⟨made, hmade⟩, hsource⟩
  obtain ⟨source', hsource', hfollowed⟩ := followed_of_passes hmade
  obtain rfl : source = source' := Except.ok.inj (hsource.symm.trans hsource')
  exact hfollowed

/-- **What references come to.** Where a reference looks is told by its slashes. In an outline every
entry comes to what is found there, or is told of if nothing is; and it comes to what the form of
its reference says just when that is as it should be written. Whoever wants references refused is
refused where another is told of one, and what is done with a single reference is what its form
promises just when it is as it should be written, and the shared parameters are an object. -/
theorem decode_followed {es : Value.Entries} {o : Options}
    (hd : (select (.object es)).outcome = .ok .paths) :
    (∀ target key, LooksUp target key ↔ referenceName target = key) ∧
      (∀ s, (decode (.object es) o).outcome = .ok s →
        ∃ ops, operations (.object es) = .ok (.paths, ops) ∧
          EachMethod o ops s fun op m => op.EachEntry m fun node source =>
            Followed (Finds es) o op.place (decode (.object es) o).notices node source ∧
            (Followed (Means es) o op.place (decode (.object es) o).notices node source ↔
              (isLeftOut o node = .ok false → ∀ target, node.field "$ref" = .ok (.str target) →
                AsWritten es target))) ∧
      (∀ strict, o.Stricter strict → ∀ target place,
        .skipped target place ∈ (decode (.object es) o).notices →
          ∃ first there, .skipped first there ∈ (decode (.object es) o).notices ∧
            (decode (.object es) strict).outcome =
              .error (.refused (.unresolvedReference (.str first) (.str there)))) ∧
      ∀ target place, Documented es o target place ↔
        (∃ table, (sharedTable es).entries = .ok table) ∧ AsWritten es target := by
  refine ⟨fun _ _ => looksUp_iff, ?_, ?_, fun _ _ => documented_iff⟩
  · intro s h
    obtain ⟨d, entries, ops, hentries, hops, hmakes⟩ := decode_makes h
    obtain ⟨entries', hselect, hentries', hcollected⟩ := operations_eq_ok_iff.1 hops
    obtain rfl : es = entries := Except.ok.inj hentries
    obtain rfl : es = entries' := Except.ok.inj hentries'
    obtain rfl : Dialect.paths = d := Except.ok.inj (hd.symm.trans hselect)
    refine ⟨ops, hops, hmakes.imp_of_mem fun op hop m hm => ?_⟩
    have hfollowed := eachEntry_followed hd h (foundIn_of_operationsAs hcollected hop) hm
    exact hfollowed.imp fun node source hsource => ⟨hsource, followed_means_iff hsource⟩
  · intro strict hstricter target place htold
    -- it is stopped where the first notice of a reference would be given
    rw [← strict_decode hstricter]
    rcases Trace.strict_stopsAtFirstSkip (decode (.object es) o) with
      ⟨hnone, -⟩ | ⟨before, first, there, after, hnotices, -, hstopped⟩
    · exact nomatch hnone _ htold
    · refine ⟨first, there, ?_, congrArg Trace.outcome hstopped⟩
      rw [hnotices]
      exact List.mem_append_right _ List.mem_cons_self

/-- What an operation whose parameters are references says. -/
def referringOperation (targets : List String) : Value :=
  .ofFields [("operationId", .str "fetch"), ("parameters", .list (targets.map referenceTo))]

/-- A description with that operation and one shared parameter. -/
def referringTo (targets : List String) : Value.Entries :=
  [(.str "swagger", .str "2.0"), (.str "info", .object []),
    (.str "parameters", .ofFields [("page", pageNode)]),
    (.str "paths", .ofFields [("/books", .ofFields [("get", referringOperation targets)])])]

/-- A description with both forms of one reference, and each of them followed as written. -/
theorem decode_followed_page :
    (select (.object (referringTo ["page", "#/parameters/gone"]))).outcome = .ok .paths ∧
      (∃ s ops, (decode (.object (referringTo ["page", "#/parameters/gone"])) {}).outcome = .ok s ∧
        operations (.object (referringTo ["page", "#/parameters/gone"])) = .ok (.paths, ops)) ∧
      Options.Stricter {} { strictRefs := .bool true } ∧
      .skipped "#/parameters/gone" "GET /books" ∈
        (decode (.object (referringTo ["page", "#/parameters/gone"])) {}).notices ∧
      ∃ first there, (decode (.object (referringTo ["page", "#/parameters/gone"]))
        { strictRefs := .bool true }).outcome =
          .error (.refused (.unresolvedReference (.str first) (.str there))) := by
  have hdialect :
      (select (.object (referringTo ["page", "#/parameters/gone"]))).outcome = .ok .paths := rfl
  have hstricter : Options.Stricter {} { strictRefs := .bool true } := ⟨rfl, rfl, rfl⟩
  have htold : .skipped "#/parameters/gone" "GET /books" ∈
      (decode (.object (referringTo ["page", "#/parameters/gone"])) {}).notices := by
    decide +kernel
  obtain ⟨s, hs⟩ : ∃ s, (decode (.object (referringTo ["page", "#/parameters/gone"])) {}).outcome =
      .ok s := exists_of_isOk (by decide +kernel)
  obtain ⟨-, hfollowed, hrefused, -⟩ := decode_followed (o := {}) hdialect
  obtain ⟨ops, hops, -⟩ := hfollowed s hs
  obtain ⟨first, there, -, hfirst⟩ := hrefused _ hstricter _ _ htold
  exact ⟨hdialect, ⟨s, ops, hs, hops⟩, hstricter, htold, first, there, hfirst⟩

/-- References in neither form: to another container, into the parameter, to another document. -/
def foreignTargets : List String :=
  ["#/definitions/page", "#/parameters/page/items", "shared.yaml#/parameters/page"]

/-- A reference to something else is followed like one to the parameter that has the name in its
place: not every entry comes to what its form says. -/
theorem not_followed_as_written :
    ¬ ∀ (es : Value.Entries) (o : Options) (s : Summary),
      (select (.object es)).outcome = .ok .paths → (decode (.object es) o).outcome = .ok s →
      ∃ ops, operations (.object es) = .ok (.paths, ops) ∧
        EachMethod o ops s fun op m => op.EachEntry m
          (Followed (Means es) o op.place (decode (.object es) o).notices) := by
  intro hall
  have hnames : ((decode (.object (referringTo foreignTargets)) {}).outcome.toOption.map fun s =>
      s.parameters.map (·.name)) = some ["page", "page", "page"] := by
    decide +kernel
  have hforeign : ∀ target ∈ foreignTargets, ∀ name, ¬ Refers target name := by
    have hboth : ∀ target ∈ foreignTargets, '/' ∈ target.toList ∧
        (Text.after? "#/parameters/".toList target.toList).all (·.contains '/') = true := by
      decide
    exact fun target htarget => not_refers (hboth target htarget).1 (hboth target htarget).2
  obtain ⟨s, hs, hnames⟩ := exists_of_toOption_map hnames
  obtain ⟨ops, hops, hmethods⟩ := hall (referringTo foreignTargets) {} s rfl hs
  obtain ⟨p, hp, -⟩ := List.mem_map.1 (hnames ▸ List.mem_cons_self)
  obtain ⟨service, hservice, hp⟩ := List.mem_flatMap.1 hp
  obtain ⟨m, hm, hp⟩ := List.mem_flatMap.1 hp
  obtain ⟨op, hop, operation, entries, found, hoperation, hentries, hfound, hmade⟩ :=
    hmethods.exists_operation hservice hm
  -- the parameter is made of what one of the three references comes to
  obtain ⟨node, hnode, -⟩ := exists_of_forall₂_right hmade hp
  obtain ⟨source, hsource, rfl⟩ := List.mem_filterMap.1 hnode
  obtain ⟨entry, hentry, hfollowed⟩ := exists_of_forall₂_right hfound hsource
  have hknown : operations (.object (referringTo foreignTargets)) = .ok (.paths,
      [⟨.str "/books", .str "GET", .list [], referringOperation foreignTargets⟩]) := rfl
  obtain rfl := (Prod.mk.inj (Except.ok.inj (hknown.symm.trans hops))).2
  obtain rfl := List.mem_singleton.1 hop
  obtain rfl := Except.ok.inj hoperation
  obtain rfl : foreignTargets.map referenceTo = entries := Except.ok.inj hentries
  obtain ⟨target, htarget, rfl⟩ := List.mem_map.1 hentry
  have hreference : (referenceTo target).field "$ref" = .ok (.str target) := rfl
  cases hfollowed with
  | itself _ hother hne => exact hne target (Except.ok.inj (hother.symm.trans hreference))
  | @found other _ _ hother hmeans =>
    have hsame : Value.str target = .str other := Except.ok.inj (hreference.symm.trans hother)
    obtain ⟨name, hrefers, -⟩ := hmeans
    injection hsame with hsame
    injection hsame with hsame
    exact hforeign target htarget name (hsame ▸ hrefers)

end ApiOutline.Decoding
