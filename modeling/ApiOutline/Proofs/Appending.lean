/-
What is written at the end leaves what came before as it is.

A description that gains paths behind its own, or resources behind those it lists, gains operations
behind its own. A run over them goes on from where the run over the old ones ended, and it only adds
to what it finds: a service that is there stays in its place with its methods in front of all that
join it (`Service.Begins`), whatever the new operations are called. Groups are made of the
parameters of one method, so they are as they were too.

That the longer description can be decoded is enough for the shorter one, since its run is the
first part of the longer one's. The converse fails, as anything may stand behind.
-/
import ApiOutline.Proofs.Frame
import ApiOutline.Proofs.Services

set_option autoImplicit false

namespace ApiOutline

/-! ## What grows -/

/-- The description with resources or paths behind its own. A description by paths may also have had
none to begin with. -/
inductive Extended : Dialect → Value.Entries → Value.Entries → Prop where
  | listing {es : Value.Entries} {apis : Value} {resources : List Value} (more : List Value)
      (hapis : (Value.object es).entry "apis" = .ok apis)
      (hopened : apis.opened = .list resources) :
      Extended .listing es (es.set "apis" (.list (resources ++ more)))
  | paths {es items : Value.Entries} (more : Value.Entries)
      (hitems : ((es.get "paths").orElse (.object [])).entries = .ok items) :
      Extended .paths es (es.set "paths" (.object (items ++ more)))

/-- A service that is another one but for methods behind its own. -/
def Service.Begins (a b : Service) : Prop :=
  ∃ more, b = { a with methods := a.methods ++ more }

/-- Each service of the one list begins the service at its place in the other. -/
def BeginEach (services others : List Service) : Prop :=
  ∀ (i : Nat) (service : Service), services[i]? = some service →
    ∃ other, others[i]? = some other ∧ service.Begins other

/-- An outline that is another one but for services behind its own and methods behind those of its
services. -/
structure Summary.Begins (s s' : Summary) : Prop where
  services : BeginEach s.services s'.services
  others : s' = { s with services := s'.services }

namespace Service.Begins

/-- A service begins itself, with no methods behind its own. -/
theorem refl (service : Service) : service.Begins service :=
  ⟨[], by rw [List.append_nil]⟩

/-- What begins a service that begins a third one begins that. -/
theorem trans {a b c : Service} (hab : a.Begins b) (hbc : b.Begins c) : a.Begins c := by
  obtain ⟨more, rfl⟩ := hab
  obtain ⟨evenMore, rfl⟩ := hbc
  exact ⟨more ++ evenMore, by rw [List.append_assoc]⟩

/-- Methods are grouped one by one, so the grouped service begins the other grouped one. -/
theorem grouped {a b : Service} (h : a.Begins b) : a.grouped.Begins b.grouped := by
  obtain ⟨more, rfl⟩ := h
  refine ⟨more.map Method.grouped, ?_⟩
  rw [Service.grouped, List.map_append]
  rfl

end Service.Begins

namespace BeginEach

/-- Each service begins itself, at its own place. -/
theorem refl (services : List Service) : BeginEach services services := by
  intro i service hservice
  exact ⟨service, hservice, .refl service⟩

/-- The same for each service of a list, place by place. -/
theorem trans {as bs cs : List Service} (hab : BeginEach as bs) (hbc : BeginEach bs cs) :
    BeginEach as cs := by
  intro i a ha
  obtain ⟨b, hb, hbegins⟩ := hab i a ha
  obtain ⟨c, hc, hbegins'⟩ := hbc i b hb
  exact ⟨c, hc, hbegins.trans hbegins'⟩

/-- Two lists with services in front of which one begins the other. -/
theorem cons {a b : Service} {as bs : List Service} (h : a.Begins b) (hs : BeginEach as bs) :
    BeginEach (a :: as) (b :: bs) := by
  intro i service hservice
  cases i with
  | zero =>
    obtain rfl : a = service := Option.some.inj hservice
    exact ⟨b, rfl, h⟩
  | succ i => exact hs i service hservice

/-- Grouping keeps the places of services, and each grouped service begins its counterpart. -/
theorem grouped {as bs : List Service} (h : BeginEach as bs) :
    BeginEach (as.map Service.grouped) (bs.map Service.grouped) := by
  intro i service hservice
  rw [List.getElem?_map, Option.map_eq_some_iff] at hservice
  obtain ⟨a, ha, rfl⟩ := hservice
  obtain ⟨b, hb, hbegins⟩ := h i a ha
  refine ⟨b.grouped, ?_, hbegins.grouped⟩
  rw [List.getElem?_map, hb]
  rfl

end BeginEach

namespace Decoding

open Outcome Value

/-! ## Operations -/

/-- The operations of a description that has grown are its old ones and others behind them. New
resources and new paths stand at the end, and operations are collected in the order in which they
stand. -/
theorem operationsAs_extended {d : Dialect} {es es' : Value.Entries} (h : Extended d es es')
    {ops' : List Operation} (hops' : operationsAs d es' = .ok ops') :
    ∃ ops more, operationsAs d es = .ok ops ∧ ops' = ops ++ more := by
  cases h with
  | @listing _ apis resources more hapis hopened =>
    have hentry : (object (es.set "apis" (.list (resources ++ more)))).entry "apis" =
        .ok (.list (resources ++ more)) := entry_of_entries rfl (lookup_set es "apis" _)
    rw [operationsAs, hentry, ok_bind, elements_list, ok_bind, collect_append_eq_ok_iff] at hops'
    obtain ⟨ops, others, hops, _, rfl⟩ := hops'
    refine ⟨ops, others, ?_, rfl⟩
    rw [operationsAs, hapis, ok_bind, elements_of_opened hopened, ok_bind, hops]
  | @paths _ items more hitems =>
    rw [operationsAs, get_set, entries_orElse_object, ok_bind, collect_append_eq_ok_iff] at hops'
    obtain ⟨ops, others, hops, _, rfl⟩ := hops'
    refine ⟨ops, others, ?_, rfl⟩
    rw [operationsAs, hitems, ok_bind, hops]

/-! ## The roster -/

/-- The roster is looked through from the front. -/
theorem service?_cons (e : Scalar × Service) (rest : Roster) (key : Scalar) :
    Roster.service? (e :: rest) key =
      if e.1.same key then some e.2 else Roster.service? rest key := by
  rw [Roster.service?, Roster.service?, List.find?_cons]
  cases e.1.same key with
  | true => rfl
  | false => rfl

/-- A service that is put begins where the one under its key left off, and no other is touched. -/
theorem beginEach_put {roster : Roster} {key : Scalar} {service : Service}
    (h : ∀ old, roster.service? key = some old → old.Begins service) :
    BeginEach (roster.map (·.2)) ((roster.put key service).map (·.2)) := by
  induction roster with
  | nil =>
    intro i other hother
    exact nomatch hother
  | cons e rest ih =>
    rw [service?_cons] at h
    rw [Roster.put]
    -- the service takes the place of the one in front, or is put further back
    by_cases hkey : e.1.same key = true
    · rw [if_pos hkey] at h ⊢
      exact .cons (h e.2 rfl) (.refl _)
    · rw [if_neg hkey] at h ⊢
      exact .cons (.refl e.2) (ih h)

/-- The service of an operation is the one under its key, if there is one. -/
theorem service_of_serviceOf {o : Options} {version : Option String} {roster : Roster}
    {node : Value} {filed : Scalar × Service} (h : serviceOf o version roster node = .ok filed)
    {old : Service} (hold : roster.service? filed.1 = some old) : filed.2 = old := by
  simp only [serviceOf, bind_eq_ok_iff] at h
  obtain ⟨tag, _, key, _, h⟩ := h
  cases hfound : roster.service? (key.getD .null) with
  | some service =>
    rw [hfound] at h
    obtain rfl := Except.ok.inj h
    exact Option.some.inj (hfound.symm.trans hold)
  | none =>
    rw [hfound] at h
    obtain ⟨service, _, h⟩ := bind_eq_ok_iff.1 h
    obtain rfl := Except.ok.inj h
    -- the service is new, so there was none
    have hnone : some old = none := hold.symm.trans hfound
    cases hnone

section Run

variable {d : Dialect} {spec : Value.Entries} {o : Options} {version : Option String}

/-- **One operation leaves the methods that are there in front.** -/
theorem beginEach_add {roster roster' : Roster} {op : Operation}
    (h : roster.add d spec o version op = .ok roster') :
    BeginEach (roster.map (·.2)) (roster'.map (·.2)) := by
  simp only [Roster.add, bind_eq_ok_iff] at h
  obtain ⟨filed, hfiled, base, _, unnamed, _, h⟩ := h
  obtain rfl := Except.ok.inj h
  refine beginEach_put fun old hold => ?_
  obtain rfl := service_of_serviceOf hfiled hold
  exact ⟨[_], rfl⟩

/-- **A run only adds to the roster it starts from.** So services keep their places, and methods
theirs within a service, however many operations follow. -/
theorem beginEach_foldlM {ops : List Operation} {roster roster' : Roster}
    (h : ops.foldlM (Roster.add d spec o version) roster = .ok roster') :
    BeginEach (roster.map (·.2)) (roster'.map (·.2)) := by
  induction ops generalizing roster with
  | nil =>
    obtain rfl := Except.ok.inj h
    exact .refl _
  | cons op ops ih =>
    rw [List.foldlM_cons] at h
    obtain ⟨next, hnext, h⟩ := bind_eq_ok_iff.1 h
    exact (beginEach_add hnext).trans (ih h)

end Run

/-! ## The outline -/

/-- A description that has grown is the old one but for the entry with the operations. -/
theorem Extended.agreeBut {d : Dialect} {es es' : Value.Entries} (h : Extended d es es') :
    AgreeBut d.itemsField es es' := by
  cases h with
  | listing => exact agreeBut_set es "apis" _
  | paths => exact agreeBut_set es "paths" _

/-- **If a description that has grown at its end has an outline, it had one before, and that one
begins the new one.** Services that were there keep their place and their methods, under the names
they had, and new ones come behind; the same fields are in the head. The induction is along the
operations that were added, since the old ones come first in both runs. -/
theorem decode_extended {d : Dialect} {es es' : Value.Entries}
    (hd : (select (.object es)).outcome = .ok d) (h : Extended d es es') {o : Options}
    {s' : Summary} (hs' : (decode (.object es') o).outcome = .ok s') :
    ∃ s, (decode (.object es) o).outcome = .ok s ∧ s.Begins s' := by
  have hagree := Extended.agreeBut h
  have hd' : (select (.object es')).outcome = .ok d := by rw [← select_congr hagree, hd]
  obtain ⟨ops', version, roster', blank, hops', hversion, hroster', hframe, rfl⟩ :=
    (decode_eq_ok_iff hd').1 hs'
  obtain ⟨ops, more, hops, rfl⟩ := operationsAs_extended h hops'
  -- the run over the old operations is the first part of the run over all of them
  rw [← add_congr hagree, List.foldlM_append] at hroster'
  obtain ⟨roster, hroster, hmore⟩ := bind_eq_ok_iff.1 hroster'
  rw [← serviceVersion_congr hagree] at hversion
  rw [← frame_congr hagree] at hframe
  refine ⟨_, (decode_eq_ok_iff hd).2
    ⟨ops, version, roster, blank, hops, hversion, hroster, hframe, rfl⟩, ?_, rfl⟩
  -- group by group the services are still begun by the old ones
  have hgrouped := (beginEach_foldlM hmore).grouped
  rw [List.map_map, List.map_map] at hgrouped
  exact hgrouped

/-- A path with one operation. -/
def oneShelf : Value.Entries :=
  [(.str "swagger", .str "2.0"), (.str "info", .object []), (.str "paths", .ofFields [
    ("/books", .ofFields [
      ("get", .ofFields [("tags", .list [.str "books"]), ("operationId", .str "fetch")])])])]

/-- What is put behind it: an operation that asks for a name that is taken, and a new service. -/
def anotherShelf : Value.Entries :=
  [(.str "/books/old", .ofFields [
    ("get", .ofFields [("tags", .list [.str "books"]), ("operationId", .str "fetch")]),
    ("put", .ofFields [("tags", .list [.str "sales"]), ("operationId", .str "sell")])])]

/-- A description with one path gains another, with an operation that asks for a taken name and
one for a new service. The outline it had begins the new one. -/
theorem decode_extended_oneShelf :
    ∃ items s', ((oneShelf.get "paths").orElse (.object [])).entries = .ok items ∧
      (decode (.object (oneShelf.set "paths" (.object (items ++ anotherShelf)))) {}).outcome =
        .ok s' ∧
      ∃ s, (decode (.object oneShelf) {}).outcome = .ok s ∧ s.Begins s' := by
  obtain ⟨items, hitems⟩ : ∃ items,
      ((oneShelf.get "paths").orElse (.object [])).entries = .ok items := ⟨_, rfl⟩
  have hdialect : (select (.object oneShelf)).outcome = .ok .paths := by rfl
  obtain ⟨s', hs'⟩ : ∃ s',
      (decode (.object (oneShelf.set "paths" (.object (items ++ anotherShelf)))) {}).outcome =
        .ok s' := by
    obtain rfl := Except.ok.inj hitems
    exact exists_of_isOk (by decide +kernel)
  exact ⟨items, s', hitems, hs', decode_extended hdialect (.paths anotherShelf hitems) hs'⟩

end Decoding

end ApiOutline
