/-
Descriptions by paths in another order.

The paths of a description, and the verbs of each path, may be written in any order. What is decoded
from them is the same operations in another order (`collect_rearranged`): what a path states
for all of its operations does not depend on where its verbs stand, and its other keys are left
where they are.

An operation is filed or refused on its own account, so either both descriptions have an outline or
neither has. The services are the same, since each is there for a key and named by it; and under
each key there are the same methods. Two things do depend on the order: in which order services and
methods come, and what number goes behind a name that several operations of a service ask for.
Where no two of them ask for the same, there are no numbers and the methods are the same by name
as well (`Matched`).
-/
import ApiOutline.Proofs.Admission
import ApiOutline.Proofs.Frame
import ApiOutline.Proofs.MethodNames
import ApiOutline.Proofs.Verbs
import Mathlib.Data.List.Perm.Basic

set_option autoImplicit false

namespace ApiOutline

namespace Decoding

open Outcome Value

/-! ## Another order -/

/-- Two entries for one path, with its verbs in any order and its other keys as they are. -/
def Reordered (e f : Scalar × Value) : Prop :=
  e.1 = f.1 ∧ (e.2 = f.2 ∨ ∃ es fs : Value.Entries, e.2.entries = .ok es ∧ f.2.entries = .ok fs ∧
    es.Perm fs ∧ es.filter (!isVerb ·.1) = fs.filter (!isVerb ·.1))

/-- The same paths in any order, each with its verbs in any order. -/
def Rearranged (items items' : Value.Entries) : Prop :=
  ∃ reordered, List.Forall₂ Reordered items reordered ∧ reordered.Perm items'

/-- Reordering a path is undone by a reordering. -/
theorem Reordered.symm {e f : Scalar × Value} (h : Reordered e f) : Reordered f e := by
  obtain ⟨hpath, hitem⟩ := h
  refine ⟨hpath.symm, ?_⟩
  rcases hitem with hitem | ⟨es, fs, hes, hfs, hperm, hothers⟩
  · exact .inl hitem.symm
  · exact .inr ⟨fs, es, hfs, hes, hperm.symm, hothers.symm⟩

/-- Rearranging a description is undone by a rearrangement: first the paths are put back in their
order, then the verbs of each. -/
theorem Rearranged.symm {items items' : Value.Entries} (h : Rearranged items items') :
    Rearranged items' items := by
  obtain ⟨reordered, hitems, hperm⟩ := h
  have hback : List.Forall₂ Reordered reordered items :=
    (hitems.imp fun _ _ hef => hef.symm).flip
  -- a permutation may be moved past what relates two lists element by element
  obtain ⟨others, hothers, hperm'⟩ := List.perm_comp_forall₂ hperm.symm hback
  exact ⟨others, hothers, hperm'⟩

/-! ## The same operations -/

/-- What is collected from the same elements in another order is the same in another order. -/
theorem collect_perm {ε α γ : Type} {g : α → Except ε (List γ)} {xs ys : List α} (h : xs.Perm ys)
    {as : List γ} (has : collect g xs = .ok as) : ∃ bs, collect g ys = .ok bs ∧ as.Perm bs := by
  obtain ⟨parts, hparts, rfl⟩ := map_eq_ok_iff.1 has
  obtain ⟨others, hothers, hperm⟩ := List.perm_comp_forall₂ h.symm (mapM_eq_ok_iff.1 hparts)
  refine ⟨others.flatten, ?_, hperm.symm.flatten⟩
  rw [collect, mapM_eq_ok_iff.2 hothers]
  rfl

/-- One path has the same operations, whatever the order of its verbs. The entries at other keys
stand in the order in which they stood, so what is stated for all operations is the same. -/
theorem itemOperations_reordered {e f : Scalar × Value} (h : Reordered e f)
    {ops : List Operation} (hops : itemOperations e = .ok ops) :
    ∃ ops', itemOperations f = .ok ops' ∧ ops.Perm ops' := by
  obtain ⟨path, item⟩ := e
  obtain ⟨path', item'⟩ := f
  obtain ⟨rfl : path = path', hitem⟩ := h
  rcases hitem with rfl | ⟨es, fs, hes, hfs, hperm, hothers⟩
  · exact ⟨ops, hops, .refl ops⟩
  · simp only [itemOperations, bind_eq_ok_iff] at hops
    obtain ⟨es', hes', shared, hshared, hcollect⟩ := hops
    obtain rfl : es' = es := Except.ok.inj (hes'.symm.trans hes)
    obtain ⟨ops', hops', hperm'⟩ := collect_perm hperm hcollect
    have hshared' : sharedParameters fs = .ok shared := by
      rw [← sharedParameters_filter, ← hothers, sharedParameters_filter, hshared]
    refine ⟨ops', ?_, hperm'⟩
    rw [itemOperations, hfs, ok_bind, hshared', ok_bind, hops']

/-- Paths with their verbs reordered have the same operations in another order. By induction along
the paths: those of the first one are permuted by `itemOperations_reordered`, the others by the
induction. -/
theorem collect_reordered {items reordered : Value.Entries}
    (h : List.Forall₂ Reordered items reordered) {ops : List Operation}
    (hops : collect itemOperations items = .ok ops) :
    ∃ ops', collect itemOperations reordered = .ok ops' ∧ ops.Perm ops' := by
  induction h generalizing ops with
  | nil => exact ⟨ops, hops, .refl ops⟩
  | cons hef _ ih =>
    obtain ⟨first, rest, hfirst, hrest, rfl⟩ := collect_cons_eq_ok_iff.1 hops
    obtain ⟨first', hfirst', hperm⟩ := itemOperations_reordered hef hfirst
    obtain ⟨rest', hrest', hperm'⟩ := ih hrest
    exact ⟨first' ++ rest', collect_cons_eq_ok_iff.2 ⟨first', rest', hfirst', hrest', rfl⟩,
      hperm.append hperm'⟩

/-- **Rearranged paths have the same operations in another order.** -/
theorem collect_rearranged {items items' : Value.Entries} (h : Rearranged items items')
    {ops : List Operation} (hops : collect itemOperations items = .ok ops) :
    ∃ ops', collect itemOperations items' = .ok ops' ∧ ops.Perm ops' := by
  obtain ⟨reordered, hitems, hperm⟩ := h
  obtain ⟨between, hbetween, hfirst⟩ := collect_reordered hitems hops
  obtain ⟨ops', hops', hsecond⟩ := collect_perm hperm hbetween
  exact ⟨ops', hops', hfirst.trans hsecond⟩

/-! ## The same methods -/

/-- What becomes of the same elements in another order is the same in another order. -/
theorem perm_of_forall₂ {ε α β : Type} {f : α → Except ε β} {as as' : List α} {bs bs' : List β}
    (h : List.Forall₂ (fun a b => f a = .ok b) as bs)
    (h' : List.Forall₂ (fun a b => f a = .ok b) as' bs') (hperm : as.Perm as') : bs.Perm bs' := by
  have hunique : Relator.RightUnique fun a b => f a = .ok b := fun _ _ _ hb hc =>
    Except.ok.inj (hb.symm.trans hc)
  exact List.rel_perm_imp hunique h h' hperm

end Decoding

/-- Names of which no two are the same are given as they are asked for. -/
theorem Name.inTurn_of_nodup {bases : List String} (h : bases.Nodup) : inTurn bases = bases := by
  induction bases using List.reverseRecOn with
  | nil => rfl
  | append_singleton bases base ih =>
    obtain ⟨hbases, _, hdisjoint⟩ := List.nodup_append.1 h
    have hfree : base ∉ bases := fun hmem =>
      hdisjoint base hmem base List.mem_cons_self rfl
    have hgiven := given_freeAmong bases base
    rw [inTurn_append_singleton, ih hbases]
    rcases hgiven with ⟨_, hname⟩ | ⟨htaken, _⟩
    · rw [hname]
    · exact absurd htaken hfree

namespace Decoding

open Outcome Value

/-- The method of an operation with no name at all. -/
def Operation.nameless (d : Dialect) (spec : Value.Entries) (o : Options) (op : Operation) :
    Except Fault Method :=
  (op.unnamed d spec o).map (·.renamed "")

/-- The method of an operation that gets the name it asks for. -/
def Operation.asking (d : Dialect) (spec : Value.Entries) (o : Options) (service : Service)
    (op : Operation) : Except Fault Method := do
  let unnamed ← op.unnamed d spec o
  let base ← op.base d service
  return unnamed.renamed base

/-- The operations of a service get the identifiers that they ask for, with no numbers behind. -/
def NamedAsAsked (d : Dialect) (ops : List Operation) (service : Service) : Prop :=
  List.Forall₂ (fun op m => Name.identifier? (op.rawName d service.name) = .ok m.methodName) ops
    service.methods

/-- No two of the operations of a service ask for the same identifier. -/
def AskDifferently (d : Dialect) (ops : List Operation) (service : Service) : Prop :=
  (ops.map fun op => Name.identifier? (op.rawName d service.name)).Nodup

section Parts

variable {d : Dialect} {spec : Value.Entries} {o : Options} {version : Option String}
  {key : Scalar} {ops ops' : List Operation} {service service' : Service}

/-- Services under one key have one name, whichever operations they hold: it is what the key reads
as. -/
theorem Holds.name_eq (h : Holds d spec o version key ops service)
    (h' : Holds d spec o version key ops' service') : service.name = service'.name :=
  Except.ok.inj (h.name.symm.trans h'.name)

/-- Under one key the same operations make the same methods, but for their names. -/
theorem Holds.nameless_perm (h : Holds d spec o version key ops service)
    (h' : Holds d spec o version key ops' service') (hperm : ops.Perm ops') :
    (service.methods.map (·.renamed "")).Perm (service'.methods.map (·.renamed "")) := by
  have hnameless : ∀ {ops : List Operation} {service : Service},
      Holds d spec o version key ops service →
      List.Forall₂ (fun op m => op.nameless d spec o = .ok m) ops
        (service.methods.map (·.renamed "")) := by
    intro ops service hholds
    refine List.forall₂_map_right_iff.2 (hholds.methods.imp ?_)
    rintro op m ⟨unnamed, hunnamed, hm⟩
    rw [Operation.nameless, hunnamed, hm]
    rfl
  exact perm_of_forall₂ (hnameless h) (hnameless h') hperm

/-- Operations that ask for different names get them. Numbers are put behind a name only where it
is taken. -/
theorem Holds.asked (h : Holds d spec o version key ops service)
    (hdifferent : AskDifferently d ops service) :
    List.Forall₂ (fun op m => op.base d service = .ok m.methodName) ops service.methods := by
  obtain ⟨bases, hbases, hnames⟩ := h.names
  have hmap : (ops.map fun op => Name.identifier? (op.rawName d service.name)) =
      bases.map .ok :=
    map_eq_map_of_forall₂ (hbases.imp fun _ _ hbase => Operation.base_eq_ok hbase)
  have hnodup : bases.Nodup := by
    rw [AskDifferently, hmap] at hdifferent
    exact hdifferent.of_map _
  -- bases that are all different are given as they are, so the methods have them as names
  rw [Name.inTurn_of_nodup hnodup] at hnames
  rw [← hnames, Service.methodNames, List.forall₂_map_right_iff] at hbases
  exact hbases

/-- Where the operations of a service ask for different identifiers, each of its methods is named
by the identifier of its own operation's raw name. -/
theorem Holds.namedAsAsked (h : Holds d spec o version key ops service)
    (hdifferent : AskDifferently d ops service) : NamedAsAsked d ops service :=
  (h.asked hdifferent).imp fun _ _ hbase => Operation.base_eq_ok hbase

/-- Under one key the same operations make the same methods, names and all, if they ask for
different names. -/
theorem Holds.methods_perm (h : Holds d spec o version key ops service)
    (h' : Holds d spec o version key ops' service') (hperm : ops.Perm ops')
    (hdifferent : AskDifferently d ops service) (hdifferent' : AskDifferently d ops' service') :
    service.methods.Perm service'.methods := by
  have hasking : List.Forall₂ (fun op m => op.asking d spec o service = .ok m) ops
      service.methods := by
    refine h.methods.mp ?_ (h.asked hdifferent)
    rintro op m ⟨unnamed, hunnamed, hm⟩ hbase
    rw [Operation.asking, hunnamed, ok_bind, hbase, hm]
    rfl
  have hasking' : List.Forall₂ (fun op m => op.asking d spec o service = .ok m) ops'
      service'.methods := by
    refine h'.methods.mp ?_ (h'.asked hdifferent')
    rintro op m ⟨unnamed, hunnamed, hm⟩ hbase
    -- a service is asked for names by its own name alone
    rw [Operation.asking, hunnamed, ok_bind, Operation.base_congr (h.name_eq h'), hbase, hm]
    rfl
  exact perm_of_forall₂ hasking hasking' hperm

end Parts

/-! ## The same services -/

/-- Two services that are made of the same operations in different order. -/
structure Matched (ops : List Operation) (a b : Service) : Prop where
  name : a.name = b.name
  serviceName : a.serviceName = b.serviceName
  camelCaseName : a.camelCaseName = b.camelCaseName
  version : a.version = b.version
  /-- The methods are the same if nobody looks at their names. -/
  nameless : (a.methods.map (·.renamed "")).Perm (b.methods.map (·.renamed ""))
  /-- Where the operations ask for different names they get them, and the methods are the same. -/
  named : AskDifferently .paths ops a → a.methods.Perm b.methods ∧ NamedAsAsked .paths ops a ∧
    ∃ others, others.Perm ops ∧ NamedAsAsked .paths others b

/-- Two outlines of the same operations: their services can be put side by side, key by key. -/
def SameServices (o : Options) (ops : List Operation) (s s' : Summary) : Prop :=
  ∃ pairs : List (Service × Service), pairs.map (·.1) = s.services ∧
    (pairs.map (·.2)).Perm s'.services ∧
    List.Forall₂ (fun key pair => Matched (ops.filter (·.key o = key)) pair.1 pair.2)
      (ops.map (·.key o)).eraseDups pairs

/-- Whether the parameters of a method are sorted into groups has nothing to do with its name. -/
theorem renamed_grouped (m : Method) (name : String) :
    (m.renamed name).grouped = m.grouped.renamed name := rfl

section Whole

variable {spec : Value.Entries} {o : Options} {version : Option String}

/-- Two services under one key, made of the same operations in different order, match: they are
called the same and have the same methods, up to names in general and with their names where no
two operations ask for the same. -/
theorem Holds.matched {key : Scalar} {ops ops' : List Operation} {service service' : Service}
    (h : Holds .paths spec o version key ops service)
    (h' : Holds .paths spec o version key ops' service') (hperm : ops.Perm ops') :
    Matched ops service.grouped service'.grouped := by
  have hname := h.name_eq h'
  have hnameless : ∀ s : Service, (s.grouped.methods.map (·.renamed "")) =
      (s.methods.map (·.renamed "")).map Method.grouped := by
    intro s
    rw [Service.grouped, List.map_map, List.map_map]
    exact List.map_congr_left fun m _ => (renamed_grouped m "").symm
  have hasked : ∀ {ops : List Operation} {s : Service}, NamedAsAsked .paths ops s →
      NamedAsAsked .paths ops s.grouped := by
    intro ops s hs
    exact List.forall₂_map_right_iff.2 hs
  refine ⟨hname, ?_, congrArg Name.camelCase hname, ?_, ?_, fun hdifferent => ?_⟩
  · exact h.serviceName.trans (hname.trans h'.serviceName.symm)
  · exact h.version.trans h'.version.symm
  · rw [hnameless, hnameless]
    exact (h.nameless_perm h' hperm).map _
  · have hdifferent' : AskDifferently .paths ops' service' := by
      have hmap := (hperm.map fun op => Name.identifier? (op.rawName .paths service.name))
      rw [AskDifferently, ← hname]
      exact hmap.nodup hdifferent
    refine ⟨(h.methods_perm h' hperm hdifferent hdifferent').map _,
      hasked (h.namedAsAsked hdifferent), ops', hperm.symm, hasked (h'.namedAsAsked hdifferent')⟩

/-- Lists that go together element by element, as one list of pairs. -/
theorem exists_pairs {α β : Type} {R : α → β → Prop} {as : List α} {bs : List β}
    (h : List.Forall₂ R as bs) :
    ∃ pairs : List (α × β), pairs.map (·.1) = as ∧ pairs.map (·.2) = bs ∧
      ∀ p ∈ pairs, R p.1 p.2 := by
  induction h with
  | nil => exact ⟨[], rfl, rfl, fun p hp => absurd hp List.not_mem_nil⟩
  | @cons a b _ _ hab _ ih =>
    obtain ⟨pairs, rfl, rfl, hpairs⟩ := ih
    exact ⟨(a, b) :: pairs, rfl, rfl, List.forall_mem_cons.2 ⟨hab, hpairs⟩⟩

/-- Rosters of the same operations have the same keys, and can be put side by side. -/
theorem exists_pairing {ops ops' : List Operation} {roster roster' : Roster}
    (h : Files .paths spec o version ops roster) (h' : Files .paths spec o version ops' roster')
    (hperm : ops.Perm ops') :
    ∃ others : Roster, others.Perm roster' ∧ List.Forall₂ (fun e f => e.1 = f.1) roster others := by
  have hkeys : (roster.map (·.1)).Perm (roster'.map (·.1)) := by
    rw [h.keys, h'.keys, List.perm_ext_iff_of_nodup (nodup_eraseDups _) (nodup_eraseDups _)]
    intro key
    rw [List.mem_eraseDups, List.mem_eraseDups]
    exact (hperm.map _).mem_iff
  have hself : List.Forall₂ (fun key f => key = f.1) (roster'.map (·.1)) roster' := by
    rw [List.forall₂_map_left_iff, List.forall₂_same]
    intro e _
    rfl
  obtain ⟨others, hothers, hperm'⟩ := List.perm_comp_forall₂ hkeys hself
  exact ⟨others, hperm', List.forall₂_map_left_iff.1 hothers⟩

/-- The rosters of two orders of the same operations make outlines with the same services. They
are paired by their keys, and each pair holds the operations of its key in either order. -/
theorem sameServices_of_files {ops ops' : List Operation} {roster roster' : Roster}
    (h : Files .paths spec o version ops roster) (h' : Files .paths spec o version ops' roster')
    (hperm : ops.Perm ops') {s s' : Summary} (hs : s.services = roster.map (·.2.grouped))
    (hs' : s'.services = roster'.map (·.2.grouped)) : SameServices o ops s s' := by
  -- the second roster is put into the order of the first, and then service stands by service
  obtain ⟨others, hothers, hpairing⟩ := exists_pairing h h' hperm
  obtain ⟨pairs, rfl, rfl, hkeys⟩ := exists_pairs hpairing
  refine ⟨pairs.map fun p => (p.1.2.grouped, p.2.2.grouped), ?_, ?_, ?_⟩
  · rw [hs, List.map_map, List.map_map]
    rfl
  · have hservices := hothers.map (·.2.grouped)
    rw [List.map_map] at hservices
    rw [hs', List.map_map]
    exact hservices
  · rw [← h.keys, List.map_map, List.forall₂_map_left_iff, List.forall₂_map_right_iff,
      List.forall₂_same]
    rintro ⟨e, f⟩ hmem
    have hkey : e.1 = f.1 := hkeys (e, f) hmem
    have he := h.holds e (List.mem_map_of_mem hmem)
    have hf := h'.holds f (hothers.mem_iff.1 (List.mem_map_of_mem hmem))
    rw [← hkey] at hf
    exact he.matched hf (hperm.filter _)

end Whole

/-! ## The outline -/

section Outline

variable {es items items' : Value.Entries} {o : Options}

/-- A description by paths that has an outline has one in any other order, of the same services.
Whether an operation can be filed does not depend on those before it. So the other run succeeds as
well, and it files the same operations under each key. -/
theorem decode_rearranged_of_ok (hd : (select (.object es)).outcome = .ok .paths)
    (hitems : ((es.get "paths").orElse (.object [])).entries = .ok items)
    (h : Rearranged items items') {es' : Value.Entries} (hagree : AgreeBut "paths" es es')
    (hitems' : ((es'.get "paths").orElse (.object [])).entries = .ok items') {s : Summary}
    (hs : (decode (.object es) o).outcome = .ok s) :
    ∃ s' ops, (decode (.object es') o).outcome = .ok s' ∧
      operations (.object es) = .ok (.paths, ops) ∧ SameServices o ops s s' := by
  have hd' : (select (.object es')).outcome = .ok .paths := by
    rw [← select_congr (d := .paths) hagree, hd]
  obtain ⟨ops, version, roster, blank, hops, hversion, hroster, hframe, rfl⟩ :=
    (decode_eq_ok_iff hd).1 hs
  rw [operationsAs, hitems, ok_bind] at hops
  obtain ⟨ops', hops', hperm⟩ := collect_rearranged h hops
  -- each operation can be filed on its own account, so all of them can in the other order
  have hadmissible := foldlM_add_iff.1 ⟨roster, hroster⟩
  have hadmissible' : ∀ op ∈ ops', Admissible .paths es o op := fun op hop =>
    hadmissible op (hperm.mem_iff.2 hop)
  obtain ⟨roster', hroster'⟩ :
      ∃ roster', ops'.foldlM (Roster.add .paths es o version) [] = .ok roster' :=
    foldlM_add_iff.2 hadmissible'
  refine ⟨_, ops, (decode_eq_ok_iff hd').2 ⟨ops', version, roster', blank, ?_, ?_, ?_, ?_, rfl⟩,
    ?_, ?_⟩
  · rw [operationsAs, hitems', ok_bind, hops']
  · rw [← serviceVersion_congr (d := .paths) hagree, hversion]
  · rw [← add_congr (d := .paths) hagree, hroster']
  · rw [← frame_congr (d := .paths) hagree, hframe]
  · rw [operations, hd, ok_bind, entries_object, ok_bind, operationsAs, hitems, ok_bind, hops]
    rfl
  · exact sameServices_of_files (files_of_foldlM hroster) (files_of_foldlM hroster') hperm rfl rfl

/-- **The order of the paths, and of the verbs of a path, decides about the order of services and
methods and about the numbers behind their names, and about nothing else.** -/
theorem decode_rearranged (hd : (select (.object es)).outcome = .ok .paths)
    (hitems : ((es.get "paths").orElse (.object [])).entries = .ok items)
    (h : Rearranged items items') :
    ((∃ s, (decode (.object es) o).outcome = .ok s) ↔
        ∃ s', (decode (.object (es.set "paths" (.object items'))) o).outcome = .ok s') ∧
      ∀ s s', (decode (.object es) o).outcome = .ok s →
        (decode (.object (es.set "paths" (.object items'))) o).outcome = .ok s' →
        ∃ ops, operations (.object es) = .ok (.paths, ops) ∧ SameServices o ops s s' := by
  have hagree : AgreeBut "paths" es (es.set "paths" (.object items')) := agreeBut_set es "paths" _
  have hitems' :
      (((es.set "paths" (.object items')).get "paths").orElse (.object [])).entries =
        .ok items' := by
    rw [get_set, entries_orElse_object]
  refine ⟨⟨?_, ?_⟩, ?_⟩
  · rintro ⟨s, hs⟩
    obtain ⟨s', _, hs', _⟩ := decode_rearranged_of_ok hd hitems h hagree hitems' hs
    exact ⟨s', hs'⟩
  · rintro ⟨s', hs'⟩
    have hd' : (select (.object (es.set "paths" (.object items')))).outcome = .ok .paths := by
      rw [← select_congr (d := .paths) hagree, hd]
    obtain ⟨s, _, hs, _⟩ :=
      decode_rearranged_of_ok hd' hitems' h.symm hagree.symm hitems hs'
    exact ⟨s, hs⟩
  · intro s s' hs hs'
    obtain ⟨s'', ops, hs'', hops, hsame⟩ := decode_rearranged_of_ok hd hitems h hagree hitems' hs
    obtain rfl : s'' = s' := Except.ok.inj (hs''.symm.trans hs')
    exact ⟨ops, hops, hsame⟩

end Outline

/-- Two paths, one of them with parameters for both of its operations. -/
def twoShelves : Value.Entries :=
  [(.str "/books", .ofFields [
      ("get", .ofFields [("tags", .list [.str "books"]), ("operationId", .str "fetch")]),
      ("parameters", .list [.ofFields [("name", .str "shelf"), ("in", .str "query")]]),
      ("Put", .ofFields [("tags", .list [.str "sales"]), ("operationId", .str "sell")])]),
    (.str "/books/old", .ofFields [
      ("get", .ofFields [("tags", .list [.str "books"]), ("operationId", .str "fetchOld")])])]

/-- The paths in the other order, and the verbs of the first one as well. -/
def turnedShelves : Value.Entries :=
  [(.str "/books/old", .ofFields [
      ("get", .ofFields [("tags", .list [.str "books"]), ("operationId", .str "fetchOld")])]),
    (.str "/books", .ofFields [
      ("Put", .ofFields [("tags", .list [.str "sales"]), ("operationId", .str "sell")]),
      ("parameters", .list [.ofFields [("name", .str "shelf"), ("in", .str "query")]]),
      ("get", .ofFields [("tags", .list [.str "books"]), ("operationId", .str "fetch")])])]

/-- A shop with these shelves. -/
def shelved (shelves : Value.Entries) : Value.Entries :=
  [(.str "swagger", .str "2.0"), (.str "info", .object []), (.str "paths", .object shelves)]

/-- Two paths in either order, one of them with its verbs exchanged: both descriptions are
decoded, and their services match. -/
theorem decode_rearranged_twoShelves :
    ∃ s s' ops, (decode (.object (shelved twoShelves)) {}).outcome = .ok s ∧
      (decode (.object ((shelved twoShelves).set "paths" (.object turnedShelves))) {}).outcome =
        .ok s' ∧
      operations (.object (shelved twoShelves)) = .ok (.paths, ops) ∧ SameServices {} ops s s' := by
  have hdialect : (select (.object (shelved twoShelves))).outcome = .ok .paths := by rfl
  have hturned : Rearranged twoShelves turnedShelves := by
    refine ⟨turnedShelves.reverse, .cons ⟨rfl, .inr ⟨_, _, rfl, rfl, ?_, by rfl⟩⟩
      (.cons ⟨rfl, .inl rfl⟩ .nil), List.reverse_perm turnedShelves⟩
    -- the three keys of the path are turned around
    exact (List.reverse_perm _).symm
  obtain ⟨hiff, hsame⟩ := decode_rearranged (o := {}) hdialect rfl hturned
  obtain ⟨s, hs⟩ : ∃ s, (decode (.object (shelved twoShelves)) {}).outcome = .ok s :=
    exists_of_isOk (by decide +kernel)
  obtain ⟨s', hs'⟩ := hiff.1 ⟨s, hs⟩
  obtain ⟨ops, hops, hservices⟩ := hsame s s' hs hs'
  exact ⟨s, s', ops, hs, hs', hops, hservices⟩

end Decoding

end ApiOutline
