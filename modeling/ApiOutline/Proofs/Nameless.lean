/-
Operations of which no name can be made.

An identifier is made of anything but the empty name, so a description is refused for a name only
where nothing is left to make one of. An operation has two chances. What it calls itself may be
absent, or be nothing but the name of its service and a point, which is taken off. Then its verb and
its path are joined, and since no letter disappears when its case is changed, the verb alone makes a
name, whatever becomes of the path, unless the verb was empty from the start.

In a description by paths a verb is one of a few words, none of them empty, so the second chance is
never lost. A listing states its verbs, and may state an empty one (`decode_refused_for_name`).

How a service is called matters here, and a service is in the roster before the operation comes up.
So what is asked of one operation is asked in rosters whose services are called as their keys read
(`Roster.Titled`), which adding an operation keeps.
-/
import ApiOutline.Proofs.MethodNames
import ApiOutline.Proofs.Refusals
import ApiOutline.Proofs.Text.Letter

set_option autoImplicit false

namespace ApiOutline.Decoding

open Outcome

/-! ## One operation in its service -/

/-- There is nothing to make a name of: the verb of an operation is empty, as a text or in octets,
and what it calls itself in a service is absent or empty behind the name of the service. -/
structure Operation.Nameless (d : Dialect) (service : String) (op : Operation) : Prop where
  verb : op.verb = .str "" ∨ op.verb = .bytes []
  own : ∃ raw, op.node.field d.nameField = .ok raw ∧
    (raw.truthy = false ∨ raw = .str (service ++ "."))

/-- A name for which a description is refused is false in a condition. Of anything else an
identifier is made, or it is no text, which is a fault of another kind. -/
theorem not_truthy_of_identifierOfValue {v : Value} {reason : Refusal}
    (h : Name.identifierOfValue v = .error (.refused reason)) : v.truthy = false := by
  rw [← Bool.not_eq_true]
  intro htruthy
  rw [Name.identifierOfValue, if_pos htruthy] at h
  -- a value that is no text is of the wrong type, and a text is not empty
  have hsafe : RefusedFor (fun _ => False) (v.searchable.bind Name.identifier?) := by
    refine (Value.refusedFor_ask .searchable v).bind fun name hname => ?_
    obtain rfl := Value.eq_str_of_searchable hname
    rw [Name.identifier?, if_neg (bne_iff_ne.1 htruthy)]
    exact refusedFor_ok _
  exact hsafe reason h

/-- A name made of a verb and a path is empty only if the verb is. It begins with the verb in
small letters, and these are nothing only if the verb is. A verb in octets has as many small ones.
-/
theorem verb_of_ofPathValue {verb path made : Value} (hmade : Name.ofPathValue verb path = .ok made)
    (hempty : made.truthy = false) : verb = .str "" ∨ verb = .bytes [] := by
  unfold Name.ofPathValue at hmade
  -- octets are a name by themselves, and only where the path adds nothing to them
  split at hmade
  · next octets =>
    obtain ⟨path, -, hmade⟩ := bind_eq_ok_iff.1 hmade
    split at hmade
    · rw [← Except.ok.inj hmade] at hempty
      right
      cases octets with
      | nil => rfl
      | cons b rest => exact nomatch hempty
    · exact nomatch hmade
  · simp only [bind_eq_ok_iff] at hmade
    obtain ⟨verb, hverb, path, -, hmade⟩ := hmade
    obtain rfl := Value.eq_str_of_asText hverb
    rw [← Except.ok.inj hmade, Value.truthy, bne_eq_false_iff_eq, Name.ofPath,
      String.append_eq_empty_iff, Text.lower_eq_empty_iff] at hempty
    left
    rw [hempty.1]

/-- Nothing is left of a name without the name of its service only if it was empty, or the name of
the service and a point. -/
theorem withoutPrefix_eq_empty {service name : String} (h : withoutPrefix service name = "") :
    name = "" ∨ name = service ++ "." := by
  rw [withoutPrefix] at h
  split at h
  · next rest hrest =>
    have happend := Text.eq_append_of_after? hrest
    rw [String.ofList_eq_empty_iff] at h
    rw [h, List.append_nil] at happend
    exact .inr (String.toList_inj.1 happend)
  · exact .inl h

/-- **A name is refused only where there is nothing to make one of.** What the operation calls
itself counts first; only when nothing of it is left behind the service's prefix is the name
joined of verb and path, and then the refusal says that the verb was empty. -/
theorem Operation.base_refused (d : Dialect) (service : Service) (op : Operation) :
    RefusedFor (fun _ => op.Nameless d service.name) (op.base d service) := by
  refine (Value.refusedFor_ask (.field d.nameField) op.node).bind fun raw hraw => ?_
  refine (refusedFor_nameOf d id service raw op.verb op.path).bind fun name hname => ?_
  intro reason hrefused
  have hempty : name.truthy = false := not_truthy_of_identifierOfValue hrefused
  simp only [nameOf, Trace.outcome_bind, Trace.outcome_liftM, bind_eq_ok_iff] at hname
  obtain ⟨stated, hstated, hname⟩ := hname
  by_cases hpresent : stated.truthy = true
  · -- what it calls itself would have been taken as it is
    rw [if_pos hpresent] at hname
    simp only [Trace.outcome_bind, Trace.outcome_liftM, bind_eq_ok_iff] at hname
    obtain ⟨own, hown, hname⟩ := hname
    rw [Value.eq_str_of_asText hown] at hpresent
    rw [← Except.ok.inj hname] at hempty
    exact absurd hpresent (Bool.not_eq_true _ ▸ hempty)
  · rw [if_neg hpresent] at hname
    simp only [Trace.outcome_bind, Trace.outcome_liftM, bind_eq_ok_iff] at hname
    obtain ⟨made, hmade, -, -, hname⟩ := hname
    rw [← Except.ok.inj hname] at hempty
    refine ⟨verb_of_ofPathValue hmade hempty, raw, hraw, ?_⟩
    rcases withoutService_eq_ok hstated with ⟨text, rfl, rfl⟩ | ⟨habsent, -, -⟩
    · have hrest : withoutPrefix service.name text = "" := by
        rw [Value.truthy, bne_iff_ne, not_not] at hpresent
        exact hpresent
      rcases withoutPrefix_eq_empty hrest with rfl | rfl
      · exact .inl rfl
      · exact .inr rfl
    · exact .inl habsent

/-! ## How services are called -/

/-- All services are called as their keys read. -/
def Roster.Titled (roster : Roster) : Prop :=
  ∀ e ∈ roster, e.1.Reads e.2.name

/-- The keys in such a roster can all be read, since services are called as they read. -/
theorem Roster.Titled.readable {roster : Roster} (h : roster.Titled) : roster.Readable :=
  fun e he => ⟨e.2.name, h e he⟩

/-- It holds of the empty roster, in which decoding starts. -/
theorem Roster.titled_nil : Roster.Titled [] :=
  fun _ h => absurd h List.not_mem_nil

section Titled

variable {o : Options} {version : Option String} {roster : Roster} {op : Operation}

/-- A service for which an operation is filed is called as its key reads, whether it was in the
roster already or is a new one. -/
theorem Roster.Titled.reads (h : roster.Titled) {key : Scalar} {service : Service}
    (hfiled : serviceOf o version roster op.node = .ok (key, service)) :
    serviceTag o op.node = .ok (.scalar key) ∧ key.Reads service.name := by
  obtain ⟨-, htag, hmem | ⟨-, hnew⟩⟩ := serviceOf_eq_ok h.readable hfiled
  · exact ⟨htag, h _ hmem⟩
  · exact ⟨htag, (newService_eq_ok hnew).1⟩

/-- A service that is called as its key reads may be put in. By induction along the roster: it
takes the place of the one with its key, or comes last. -/
theorem Roster.Titled.put (h : roster.Titled) {key : Scalar} {service : Service}
    (hreads : key.Reads service.name) : (roster.put key service).Titled := by
  induction roster with
  | nil => exact List.forall_mem_singleton.2 hreads
  | cons e rest ih =>
    have hrest : Roster.Titled rest := fun f hf => h f (List.mem_cons_of_mem e hf)
    rw [Roster.put, h.readable.head_same]
    -- it takes the place of the one with its key, or goes on to the next
    by_cases hkey : e.1 = key
    · rw [if_pos (decide_eq_true hkey), hkey]
      exact List.forall_mem_cons.2 ⟨hreads, hrest⟩
    · rw [if_neg (by rw [decide_eq_true_eq]; exact hkey)]
      exact List.forall_mem_cons.2 ⟨h e List.mem_cons_self, ih hrest⟩

/-- **Adding an operation keeps that services are called as their keys read.** This is the step
that the run over all operations repeats. -/
theorem Roster.Titled.add (h : roster.Titled) {d : Dialect} {spec : Value.Entries}
    {roster' : Roster} (hadd : roster.add d spec o version op = .ok roster') :
    roster'.Titled := by
  simp only [Roster.add, bind_eq_ok_iff] at hadd
  obtain ⟨⟨key, service⟩, hfiled, base, -, unnamed, -, hadd⟩ := hadd
  rw [← Except.ok.inj hadd]
  exact h.put (h.reads hfiled).2

end Titled

/-! ## The description -/

/-- Among the operations of a description there is one of which in its service no name can be
made. -/
def SomeNameless (d : Dialect) (spec : Value.Entries) (o : Options) : Prop :=
  ∃ (op : Operation) (key : Scalar) (service : String), op.FoundIn spec d ∧
    serviceTag o op.node = .ok (.scalar key) ∧ key.Reads service ∧ op.Nameless d service

/-- If a description is refused for a name, it is that of one of its operations. -/
theorem exists_nameless {spec : Value} {o : Options} {d : Dialect} {name : Value}
    (hd : (select spec).outcome = .ok d)
    (hrefused : (decode spec o).outcome = .error (.refused (.invalidMethodName name))) :
    ∃ entries, spec.entries = .ok entries ∧ SomeNameless d entries o := by
  let reasonable : Refusal → Prop := fun reason => ∀ name, reason = .invalidMethodName name →
    ∃ entries, spec.entries = .ok entries ∧ SomeNameless d entries o
  have hdecode : RefusedFor reasonable (decode spec o).outcome := by
    refine refusedFor_decode_of_add (I := Roster.Titled) ?_ Roster.titled_nil ?_
    · exact fun _ h => nomatch h
    · intro d' entries hd' hentries version roster op htitled hfound
      obtain rfl : d = d' := Except.ok.inj (hd.symm.trans hd')
      refine ⟨refusedFor_add entries ?_ ?_, fun roster' hadd => htitled.add hadd⟩
      · rintro ⟨key, service⟩ hfiled reason hbase - -
        obtain ⟨htag, hreads⟩ := htitled.reads hfiled
        have hnameless := op.base_refused d service reason hbase
        exact ⟨entries, hentries, op, key, service.name, hfound, htag, hreads, hnameless⟩
      · exact fun _ _ target place _ h => nomatch h
  exact hdecode _ hrefused name rfl

/-- An operation of a listing has an empty verb only if it states an empty method. Raising the
letters makes nothing empty that was not, neither a text nor octets. -/
theorem listingVerb_empty {node verb : Value} (hverb : listingVerb node = .ok verb)
    (hempty : verb = .str "" ∨ verb = .bytes []) :
    node.entry "method" = .ok (.str "") ∨ node.entry "method" = .ok (.bytes []) := by
  obtain ⟨stated, hstated, hverb⟩ := bind_eq_ok_iff.1 hverb
  rw [hstated]
  split at hverb
  · next octets =>
    rw [← Except.ok.inj hverb] at hempty
    rcases hempty with hempty | hempty
    · exact nomatch hempty
    · have hnil : Text.upperOctets octets = [] := Scalar.bytes.inj (Value.scalar.inj hempty)
      rw [List.map_eq_nil_iff.1 hnil]
      exact .inr rfl
  · obtain ⟨text, htext, hverb⟩ := bind_eq_ok_iff.1 hverb
    rw [← Except.ok.inj hverb] at hempty
    rcases hempty with hempty | hempty
    · have hupper : Text.upper text = "" := Scalar.str.inj (Value.scalar.inj hempty)
      rw [Value.eq_str_of_asText htext, Text.upper_eq_empty_iff.1 hupper]
      exact .inl rfl
    · exact nomatch hempty

/-- **Only listings are refused for a name.** No description by paths is, and a listing is only
where an operation states an empty method, as a text or in octets, and what it calls itself is
absent, or empty behind the name of the service that it is filed in. -/
theorem decode_refused_for_name (spec : Value) (o : Options) :
    ((select spec).outcome = .ok .paths → ∀ name,
      (decode spec o).outcome ≠ .error (.refused (.invalidMethodName name))) ∧
    ((select spec).outcome = .ok .listing → ∀ name,
      (decode spec o).outcome = .error (.refused (.invalidMethodName name)) →
      ∃ (entries : Value.Entries) (op : Operation) (raw : Value), spec.entries = .ok entries ∧
        op.FoundIn entries .listing ∧
        (op.node.entry "method" = .ok (.str "") ∨ op.node.entry "method" = .ok (.bytes [])) ∧
        op.node.field "nickname" = .ok raw ∧
        (raw.truthy = false ∨ ∃ key service, serviceTag o op.node = .ok (.scalar key) ∧
          key.Reads service ∧ raw = .str (service ++ "."))) := by
  constructor
  · intro hd name hrefused
    obtain ⟨entries, -, op, key, service, hfound, -, -, hnameless⟩ := exists_nameless hd hrefused
    cases hfound with
    | keyed _ _ _ _ _ hverb =>
      have hnone : "" ∉ httpVerbs := by decide
      rcases hnameless.verb with hempty | hempty
      · rw [Scalar.str.inj (Value.scalar.inj hempty)] at hverb
        exact hnone hverb
      · exact nomatch hempty
  · intro hd name hrefused
    obtain ⟨entries, hentries, op, key, service, hfound, htag, hreads, hnameless⟩ :=
      exists_nameless hd hrefused
    obtain ⟨raw, hraw, hown⟩ := hnameless.own
    have hmethod : op.node.entry "method" = .ok (.str "") ∨
        op.node.entry "method" = .ok (.bytes []) := by
      cases hfound with
      | listed _ _ _ _ _ _ _ hverb => exact listingVerb_empty hverb hnameless.verb
    refine ⟨entries, op, raw, hentries, hfound, hmethod, hraw, ?_⟩
    exact hown.imp_right fun hown => ⟨key, service, htag, hreads, hown⟩

/-- A listing of one operation with a method and a nickname, at the root. -/
def rootListing (method nickname : Value) : Value :=
  .ofFields [("swaggerVersion", .str "1.2"), ("apis", .list [.ofFields [
    ("path", .str "/"), ("operations", .list [.ofFields [
      ("method", method), ("nickname", nickname), ("tags", .list [.str "Books"])]])]])]

/-- Is a run refused for a name? -/
def isRefusedForName (r : Except Fault Summary) : Bool :=
  match r with
  | .error (.refused (.invalidMethodName _)) => true
  | _ => false

/-- The test for refusals that can be run says what it should. -/
theorem refused_of_isRefusedForName {r : Except Fault Summary} (h : isRefusedForName r = true) :
    ∃ name, r = .error (.refused (.invalidMethodName name)) := by
  unfold isRefusedForName at h
  split at h
  · exact ⟨_, rfl⟩
  · exact nomatch h

/-- The nickname is the name of the service and a point, and the method is empty. So nothing is
left of either to make a name of, and the listing is refused. -/
theorem decode_refused_for_name_rootListing :
    let spec := rootListing (.str "") (.str "Books.")
    (select spec).outcome = .ok .listing ∧
    ∃ name, (decode spec {}).outcome = .error (.refused (.invalidMethodName name)) ∧
      ∃ (entries : Value.Entries) (op : Operation) (raw : Value), spec.entries = .ok entries ∧
        op.FoundIn entries .listing ∧
        (op.node.entry "method" = .ok (.str "") ∨ op.node.entry "method" = .ok (.bytes [])) ∧
        op.node.field "nickname" = .ok raw ∧
        (raw.truthy = false ∨ ∃ key service, serviceTag {} op.node = .ok (.scalar key) ∧
          key.Reads service ∧ raw = .str (service ++ ".")) := by
  intro spec
  have hd : (select spec).outcome = .ok .listing := by rfl
  have hrefused : isRefusedForName (decode spec {}).outcome = true := by decide +kernel
  obtain ⟨name, hname⟩ := refused_of_isRefusedForName hrefused
  exact ⟨hd, name, hname, (decode_refused_for_name spec {}).2 hd name hname⟩

/-- A listing may be refused for a name though no method in it is the empty text: empty octets are
no text. -/
theorem not_refused_for_empty_text :
    ¬ ∀ (spec : Value) (o : Options), (select spec).outcome = .ok .listing → ∀ name,
      (decode spec o).outcome = .error (.refused (.invalidMethodName name)) →
      ∃ (entries : Value.Entries) (op : Operation), spec.entries = .ok entries ∧
        op.FoundIn entries .listing ∧ op.node.entry "method" = .ok (.str "") := by
  intro hall
  have hd : (select (rootListing (.bytes []) .null)).outcome = .ok .listing := by rfl
  have hrefused : isRefusedForName (decode (rootListing (.bytes []) .null) {}).outcome = true := by
    decide +kernel
  obtain ⟨name, hname⟩ := refused_of_isRefusedForName hrefused
  obtain ⟨entries, op, hentries, hfound, hmethod⟩ := hall _ {} hd name hname
  obtain rfl := Except.ok.inj hentries
  -- there is one resource with one operation, and its method is the octets
  cases hfound with
  | listed hapis hresources hresource hlisted hnodes hnode _ _ =>
    obtain rfl := Except.ok.inj hapis
    obtain rfl := Except.ok.inj hresources
    obtain rfl := List.mem_singleton.1 hresource
    obtain rfl := Except.ok.inj hlisted
    obtain rfl := Except.ok.inj hnodes
    obtain rfl := List.mem_singleton.1 hnode
    exact nomatch Except.ok.inj hmethod

end ApiOutline.Decoding
