/-
The names of the methods.

Each operation asks for a name, the identifier made of what it calls itself or, if it calls itself
nothing, of its verb and path (`Operation.rawName`), and gets it with a number behind it where an
earlier method of its service has it. So no two methods of a service have one name, and which name
an operation gets can be told from the operations before it in its service alone (`Named`).

None of the names is a reserved word. Whether they are identifiers is another matter: a name is
one if what it was made of was clean, and not otherwise, since characters are replaced by a
coarser test than the one for identifiers. A superscript is kept in a name, but no identifier has
one in it.
-/
import ApiOutline.Proofs.Name.Identifier
import ApiOutline.Proofs.Services
import ApiOutline.Proofs.Value.Entries

set_option autoImplicit false

namespace ApiOutline.Decoding

open Outcome

/-! ## What an operation calls itself -/

/-- A name without the name of its service and a point in front. -/
def withoutPrefix (service name : String) : String :=
  match Text.after? (service ++ ".").toList name.toList with
  | some rest => String.ofList rest
  | none => name

namespace Operation

/-- What an operation says its name is, without the name of its service in front. -/
def ownName (d : Dialect) (service : String) (op : Operation) : String :=
  match op.node.field d.nameField with
  | .ok (.str name) => withoutPrefix service name
  | _ => ""

/-- The name made of the verb and the path of an operation. -/
def madeName (op : Operation) : String :=
  match op.verb, op.path with
  | .str verb, .str path => Name.ofPath verb path
  | _, _ => ""

/-- What the name of an operation is made of: what it says itself, or else its verb and path. -/
def rawName (d : Dialect) (service : String) (op : Operation) : String :=
  if op.ownName d service = "" then op.madeName else op.ownName d service

end Operation

/-- The empty name begins with no service's name, for that has a point behind it. -/
theorem withoutPrefix_empty (service : String) : withoutPrefix service "" = "" := by
  rw [withoutPrefix]
  split
  · next rest hrest =>
    have happend := Text.eq_append_of_after? hrest
    exact congrArg String.ofList (List.append_eq_nil_iff.1 happend.symm).2
  · rfl

/-- A name without the name of its service: it is a text, or it counts as absent. Only texts are
looked at for the name of the service. What counts as absent is passed on as it is, and the empty
text does both. -/
theorem withoutService_eq_ok {service : Service} {raw stated : Value}
    (h : withoutService service raw = .ok stated) :
    (∃ name, raw = .str name ∧ stated = .str (withoutPrefix service.name name)) ∨
      raw.truthy = false ∧ stated = raw ∧ ∀ name, raw ≠ .str name := by
  rw [withoutService] at h
  by_cases hraw : raw.truthy = true
  · rw [if_pos hraw] at h
    obtain ⟨name, hname, h⟩ := bind_eq_ok_iff.1 h
    obtain rfl := Value.eq_str_of_asText hname
    refine .inl ⟨name, rfl, ?_⟩
    rw [withoutPrefix]
    cases hrest : Text.after? (service.name ++ ".").toList name.toList with
    | some rest =>
      rw [hrest] at h
      exact (Except.ok.inj h).symm
    | none =>
      rw [hrest] at h
      exact (Except.ok.inj h).symm
  · rw [if_neg hraw] at h
    obtain rfl := Except.ok.inj h
    -- what counts as absent may still be a text, the empty one
    by_cases htext : ∃ name, raw = .str name
    · obtain ⟨name, rfl⟩ := htext
      have hempty : name = "" := by
        rw [Value.truthy, bne_iff_ne, not_not] at hraw
        exact hraw
      rw [hempty]
      exact .inl ⟨"", rfl, by rw [withoutPrefix_empty]⟩
    · exact .inr ⟨Bool.not_eq_true _ ▸ hraw, rfl, not_exists.1 htext⟩

/-- A text as a value makes the identifier that it makes by itself. -/
theorem identifier?_of_identifierOfValue {raw name : String}
    (h : Name.identifierOfValue (.str raw) = .ok name) : Name.identifier? raw = .ok name := by
  rw [Name.identifierOfValue] at h
  split at h
  · exact h
  · cases h

/-- Where no name is stated, the identifier is made of the verb and the path. A verb in octets makes
none. -/
theorem identifier?_madeName {op : Operation} {name : Value} {base : String}
    (hname : Name.ofPathValue op.verb op.path = .ok name)
    (hbase : Name.identifierOfValue name = .ok base) :
    Name.identifier? op.madeName = .ok base := by
  unfold Name.ofPathValue at hname
  split at hname
  · obtain ⟨path, _, hname⟩ := bind_eq_ok_iff.1 hname
    split at hname
    · rw [← Except.ok.inj hname, Name.identifierOfValue] at hbase
      split at hbase
      · cases hbase
      · cases hbase
    · cases hname
  · simp only [bind_eq_ok_iff] at hname
    obtain ⟨verb, hverb, path, hpath, hname⟩ := hname
    rw [← Except.ok.inj hname] at hbase
    rw [Operation.madeName, Value.eq_str_of_asText hverb, Value.eq_str_of_asText hpath]
    exact identifier?_of_identifierOfValue hbase

/-- **The identifier that an operation asks for is made of its raw name.** This is the name that
it states, without that of its service, or else one that is made of its verb and path, if it
states none or if nothing is left of it. -/
theorem Operation.base_eq_ok {d : Dialect} {service : Service} {op : Operation} {base : String}
    (h : op.base d service = .ok base) :
    Name.identifier? (op.rawName d service.name) = .ok base := by
  simp only [Operation.base, nameOf, Trace.outcome_bind, Trace.outcome_liftM,
    bind_eq_ok_iff] at h
  obtain ⟨raw, hraw, name, ⟨stated, hstated, hname⟩, hbase⟩ := h
  rw [rawName]
  have hmade : stated.truthy = false → Name.identifier? op.madeName = .ok base := by
    intro hfalse
    simp only [hfalse, Bool.false_eq_true, if_false, Trace.outcome_bind, Trace.outcome_liftM,
      bind_eq_ok_iff] at hname
    obtain ⟨made, hmade, _, _, hname⟩ := hname
    rw [← Except.ok.inj hname] at hbase
    exact identifier?_madeName hmade hbase
  -- the name is stated as a text or counts as absent; an empty rest of a text counts as absent
  -- too
  rcases withoutService_eq_ok hstated with ⟨text, rfl, rfl⟩ | ⟨habsent, rfl, hno⟩
  · have hown : op.ownName d service.name = withoutPrefix service.name text := by
      rw [ownName, hraw]
    rw [hown]
    by_cases hempty : withoutPrefix service.name text = ""
    · rw [if_pos hempty]
      refine hmade ?_
      rw [hempty]
      rfl
    · rw [if_neg hempty]
      have htruthy : (Value.str (withoutPrefix service.name text)).truthy = true :=
        bne_iff_ne.2 hempty
      rw [if_pos htruthy] at hname
      obtain rfl := Except.ok.inj hname
      exact identifier?_of_identifierOfValue hbase
  · have hown : op.ownName d service.name = "" := by
      rw [ownName, hraw]
      split
      · next name hname => exact absurd (Except.ok.inj hname) (hno name)
      · rfl
    rw [hown, if_pos rfl]
    exact hmade habsent

/-! ## The names of a service -/

/-- The names in a service: each method is called by the identifier of its operation's raw name,
with the least number behind it, from two on, that tells it from the methods before, if it has to
be told from one. -/
structure Named (d : Dialect) (ops : List Operation) (service : Service) : Prop where
  length : service.methods.length = ops.length
  nodup : service.methodNames.Nodup
  given : ∀ (i : Nat) (op : Operation) (m : Method), ops[i]? = some op →
    service.methods[i]? = some m →
    ∃ base, Name.identifier? (op.rawName d service.name) = .ok base ∧
      Name.Given (service.methodNames.take i) base m.methodName

/-- Sorting parameters into groups does not touch the names of methods. -/
theorem methodNames_grouped (service : Service) :
    service.grouped.methodNames = service.methodNames := by
  rw [Service.methodNames, Service.grouped, List.map_map]
  rfl

/-- **The names in a service of a roster are given in turn**, each asked for by the identifier of
its own operation's raw name, so what was proved of names in turn holds of the methods. -/
theorem Holds.named {d : Dialect} {spec : Value.Entries} {o : Options} {version : Option String}
    {key : Scalar} {ops : List Operation} {service : Service}
    (h : Holds d spec o version key ops service) : Named d ops service.grouped := by
  obtain ⟨bases, hbases, hnames⟩ := h.names
  refine ⟨?_, ?_, ?_⟩
  · rw [Service.grouped, List.length_map]
    exact h.methods.length_eq.symm
  · rw [methodNames_grouped, hnames]
    exact Name.nodup_inTurn bases
  · intro i op m hop hm
    obtain ⟨hi, rfl⟩ := List.getElem?_eq_some_iff.1 hop
    have hb : i < bases.length := by
      rw [← hbases.length_eq]
      exact hi
    have hn : i < (Name.inTurn bases).length := by
      rw [Name.length_inTurn]
      exact hb
    refine ⟨bases[i], Operation.base_eq_ok (hbases.get hi hb), ?_⟩
    -- the name in the list and the name of the method are the same
    have hname : (Name.inTurn bases)[i] = m.methodName := by
      have hget : service.grouped.methodNames[i]? = some m.methodName := by
        rw [Service.methodNames, List.getElem?_map, hm]
        rfl
      rw [methodNames_grouped, hnames] at hget
      exact (List.getElem?_eq_some_iff.1 hget).2
    rw [methodNames_grouped, hnames, ← hname]
    exact Name.given_inTurn bases i hb hn

/-- **Within a service no two methods have one name, and each is named by its own operation and
the names before it.** The name is the identifier that comes of the operation's raw name, or that
identifier with the least number, from two on, that no earlier method of the service has. For
every description of either dialect, and every choice of options. -/
theorem decode_named {spec : Value} {o : Options} {s : Summary}
    (h : (decode spec o).outcome = .ok s) :
    ∃ d ops, operations spec = .ok (d, ops) ∧
      List.Forall₂ (fun key service => Named d (ops.filter (·.key o = key)) service)
        (ops.map (·.key o)).eraseDups s.services := by
  obtain ⟨d, entries, ops, version, roster, _, hops, _, hfiles, hservices⟩ := decode_files h
  refine ⟨d, ops, hops, ?_⟩
  rw [hservices]
  exact hfiles.forall₂_services fun _ _ hservice => hservice.named

/-- In `pets` two operations ask for `fetch`, and the third one asks for `fetch2`, which the
second one has got by then, so two of the three methods have a number behind what was asked for.
-/
theorem decode_named_petShop :
    ∃ s, (decode petShop {}).outcome = .ok s ∧ ∃ d ops, operations petShop = .ok (d, ops) ∧
      List.Forall₂ (fun key service => Named d (ops.filter (·.key {} = key)) service)
        (ops.map (·.key {})).eraseDups s.services := by
  obtain ⟨s, hs⟩ := petShop_decodes
  exact ⟨s, hs, decode_named hs⟩

/-! ## Names and identifiers -/

/-- Whether the names in a service are identifiers: none is reserved, and a name is an identifier
just when the raw name of its operation is clean. -/
def Identified (d : Dialect) (ops : List Operation) (service : Service) : Prop :=
  List.Forall₂
    (fun op m => Name.isReserved m.methodName = false ∧
      (Text.isIdentifier m.methodName = true ↔ Name.Clean (op.rawName d service.name)))
    ops service.methods

/-- A name is reserved only if its base is, and a base never is; and the number that may stand
behind a base makes it no more and no less an identifier. -/
theorem Named.identified {d : Dialect} {ops : List Operation} {service : Service}
    (h : Named d ops service) : Identified d ops service := by
  rw [Identified, List.forall₂_iff_get]
  refine ⟨h.length.symm, fun i hop hm => ?_⟩
  obtain ⟨base, hbase, hgiven⟩ := h.given i _ _ (List.getElem?_eq_getElem hop)
    (List.getElem?_eq_getElem hm)
  constructor
  · exact hgiven.isReserved_eq_false (Name.isReserved_of_identifier? hbase)
  · rw [List.get_eq_getElem, hgiven.isIdentifier_eq (Name.ne_empty_of_identifier? hbase)]
    exact Name.isIdentifier_iff_of_identifier? hbase

/-- **No method is called by a reserved word, and those are called by identifiers whose operations
have clean names.** Numbers behind a name make no difference, so whether a method is called by an
identifier can be seen from its own operation. -/
theorem decode_identified {spec : Value} {o : Options} {s : Summary}
    (h : (decode spec o).outcome = .ok s) :
    ∃ d ops, operations spec = .ok (d, ops) ∧
      List.Forall₂ (fun key service => Identified d (ops.filter (·.key o = key)) service)
        (ops.map (·.key o)).eraseDups s.services := by
  obtain ⟨d, entries, ops, version, roster, _, hops, _, hfiles, hservices⟩ := decode_files h
  refine ⟨d, ops, hops, ?_⟩
  rw [hservices]
  exact hfiles.forall₂_services fun _ _ hservice => hservice.named.identified

/-- All names in the pet shop are clean, so all methods are called by identifiers. -/
theorem decode_identified_petShop :
    ∃ s, (decode petShop {}).outcome = .ok s ∧ ∃ d ops, operations petShop = .ok (d, ops) ∧
      List.Forall₂ (fun key service => Identified d (ops.filter (·.key {} = key)) service)
        (ops.map (·.key {})).eraseDups s.services := by
  obtain ⟨s, hs⟩ := petShop_decodes
  exact ⟨s, hs, decode_identified hs⟩

/-- An operation with a superscript in its name. -/
def squared : Value :=
  .ofFields [("swagger", .str "2.0"), ("info", .object []), ("paths", .ofFields [
    ("/a", .ofFields [("get", .ofFields [("operationId", .str "a²")])])])]

/-- Methods need not be called by identifiers: a superscript is kept by the repairs, since it
counts as a character of words, but it may not stand in an identifier. -/
theorem not_all_isIdentifier :
    ¬ ∀ (spec : Value) (o : Options) (s : Summary), (decode spec o).outcome = .ok s →
      ∀ service ∈ s.services, ∀ m ∈ service.methods,
        Text.isIdentifier m.methodName = true ∧ Name.isReserved m.methodName = false := by
  intro hall
  have hsome : ((decode squared {}).outcome.toOption.map fun s =>
      s.services.all fun service => service.methods.all fun m =>
        Text.isIdentifier m.methodName) = some false := by
    decide +kernel
  rw [Option.map_eq_some_iff] at hsome
  obtain ⟨s, hs, hsome⟩ := hsome
  have hevery : (s.services.all fun service => service.methods.all fun m =>
      Text.isIdentifier m.methodName) = true := by
    rw [List.all_eq_true]
    intro service hservice
    rw [List.all_eq_true]
    intro m hm
    exact (hall squared {} s (eq_ok_of_toOption hs) service hservice m hm).1
  rw [hevery] at hsome
  exact nomatch hsome

end ApiOutline.Decoding
