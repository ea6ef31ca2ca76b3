/-
Settings that are kept.

Settings that can be given on a command line are texts, or null where nothing was given, and two
switches (`WellTyped`). Between two runs they stand in a file, and five things happen to them on the
way: what is null is left out, the others are written as lines, the lines become octets, the octets
are read as lines whatever ends them, and what was left out is set to what it is by default. Each of
the steps loses nothing, because null is what a text is by default, because lines and octets are
read back, and because no line was written with an end that reading changes. So what is read from
the file is what was kept (`load_save`).
-/
import ApiOutline.Proofs.Files.Reading
import ApiOutline.Proofs.Text.Utf8
import ApiOutline.Proofs.Toml.Lines
import ApiOutline.Settings

set_option autoImplicit false

namespace ApiOutline

/-- Where there are no carriage returns, reading changes no line. -/
theorem Text.unifyBreaks_of_not_mem {cs : List Char} (h : '\r' ∉ cs) : unifyBreaks cs = cs := by
  induction cs with
  | nil => rfl
  | cons c cs ih =>
    rw [List.mem_cons, not_or] at h
    rw [unifyBreaks.eq_4 _ _ (fun _ hc _ => h.1 hc.symm) fun hc => h.1 hc.symm, ih h.2]

namespace Settings

/-! ## Settings of the right types -/

/-- Texts, any of which may be left out, and truth values for the switches. -/
structure WellTyped (s : Settings) : Prop where
  spec : s.spec.IsTextOrNull
  output : s.output.IsTextOrNull
  moduleName : s.moduleName.IsTextOrNull
  serviceName : s.serviceName.IsTextOrNull
  host : s.host.IsTextOrNull
  schema : s.schema.IsTextOrNull
  strictRefs : ∃ b : Bool, s.strictRefs = .bool b
  proxyHeaders : ∃ b : Bool, s.proxyHeaders = .bool b

/-- What settings are by default has the right types. -/
theorem wellTyped_default : ({} : Settings).WellTyped :=
  ⟨.inl rfl, .inl rfl, .inl rfl, .inl rfl, .inl rfl, .inl rfl, ⟨false, rfl⟩, ⟨false, rfl⟩⟩

/-- What is on top of settings of the right types leaves them so. -/
theorem WellTyped.merge {given s : Settings} (hgiven : given.WellTyped) (hs : s.WellTyped) :
    (merge given s).WellTyped where
  spec := hgiven.spec.orElse hs.spec
  output := hgiven.output.orElse hs.output
  moduleName := hgiven.moduleName.orElse hs.moduleName
  serviceName := hgiven.serviceName.orElse hs.serviceName
  host := hgiven.host.orElse hs.host
  schema := hgiven.schema.orElse hs.schema
  strictRefs := by
    unfold Settings.merge
    dsimp only
    split
    · exact ⟨true, rfl⟩
    · exact hs.strictRefs
  proxyHeaders := hs.proxyHeaders

/-! ## As lines -/

/-- A text or null under a bare name makes a line, or is left out. -/
theorem line_of_isTextOrNull {name : String} {v : Value} (hname : Toml.BareName name)
    (hv : v.IsTextOrNull) : Toml.Line (.str name, v) := by
  rcases hv with rfl | ⟨s, rfl⟩
  · exact ⟨⟨name, rfl, hname⟩, .inl rfl⟩
  · exact ⟨⟨name, rfl, hname⟩, .inr (.text s)⟩

/-- A switch under a bare name makes a line. -/
theorem line_of_switch {name : String} {v : Value} (hname : Toml.BareName name)
    (hv : ∃ b : Bool, v = .bool b) : Toml.Line (.str name, v) := by
  obtain ⟨b, rfl⟩ := hv
  exact ⟨⟨name, rfl, hname⟩, .inr (.truth b)⟩

/-- **Settings of the right types can be written line by line**: all their names are bare ones,
and no line needs more than a text or a truth value. -/
theorem WellTyped.line {s : Settings} (h : s.WellTyped) : ∀ e ∈ s.entries, Toml.Line e := by
  have hall : ∀ name ∈ ["spec", "output", "module_name", "service_name", "host", "schema",
      "strict_refs", "proxy_headers"], Toml.BareName name := by
    have hnames : ∀ name ∈ ["spec", "output", "module_name", "service_name", "host", "schema",
        "strict_refs", "proxy_headers"], name ≠ "" ∧ name.toList.all Toml.isNameChar = true := by
      decide
    exact fun name hmem => ⟨(hnames name hmem).1, (hnames name hmem).2⟩
  intro e he
  simp only [entries, List.mem_cons, List.not_mem_nil, or_false] at he
  -- one setting after the other: six that may be null, and two switches
  rcases he with rfl | rfl | rfl | rfl | rfl | rfl | rfl | rfl
  · exact line_of_isTextOrNull (hall _ (by decide)) h.spec
  · exact line_of_isTextOrNull (hall _ (by decide)) h.output
  · exact line_of_isTextOrNull (hall _ (by decide)) h.moduleName
  · exact line_of_isTextOrNull (hall _ (by decide)) h.serviceName
  · exact line_of_isTextOrNull (hall _ (by decide)) h.host
  · exact line_of_isTextOrNull (hall _ (by decide)) h.schema
  · exact line_of_switch (hall _ (by decide)) h.strictRefs
  · exact line_of_switch (hall _ (by decide)) h.proxyHeaders

/-- No setting is written twice. -/
theorem nodup_keys (s : Settings) : (s.entries.map Prod.fst).Nodup := by
  change [Scalar.str "spec", .str "output", .str "module_name", .str "service_name", .str "host",
    .str "schema", .str "strict_refs", .str "proxy_headers"].Nodup
  decide

/-- Settings by name on top of others, except for nulls. -/
def withPresent (s : Settings) (es : Value.Entries) : Settings :=
  (es.filter fun e => !e.2.isNull).foldl (fun s e => (s.set? e.1.text e.2).getD s) s

/-- One setting more, in front of the others. It is put in if it is there; if it is null it is
left out, which comes to the same where null is what it was before. -/
theorem withPresent_cons {s t : Settings} {name : String} {v : Value}
    (hset : s.set? name v = some t) (hnull : v = .null → t = s) (es : Value.Entries) :
    withPresent s ((.str name, v) :: es) = withPresent t es := by
  unfold withPresent
  by_cases hv : v.isNull = true
  · rw [List.filter_cons_of_neg (by rw [hv]; decide), hnull (Value.isNull_iff.1 hv)]
  · rw [Bool.not_eq_true] at hv
    rw [List.filter_cons_of_pos (by rw [hv]; rfl), List.foldl_cons]
    dsimp only [Scalar.text]
    rw [hset, Option.getD_some]

/-- **Nothing is lost by leaving out what is null.** A setting that is not in a file has its
default, which is null for all but the two switches, and these are never left out. -/
theorem ofKnown_entries {s : Settings} (h : s.WellTyped) :
    ofKnown (s.entries.filter fun e => !e.2.isNull) = s := by
  obtain ⟨strict, hstrict⟩ := h.strictRefs
  obtain ⟨proxy, hproxy⟩ := h.proxyHeaders
  have hstrict' : s.strictRefs ≠ .null := fun h => nomatch hstrict.symm.trans h
  have hproxy' : s.proxyHeaders ≠ .null := fun h => nomatch hproxy.symm.trans h
  change withPresent {} s.entries = s
  unfold entries
  -- one setting after the other: where it is not in the file, it is null already
  rw [withPresent_cons (t := { spec := s.spec }) rfl fun h => by rw [h],
    withPresent_cons rfl fun h => by rw [h], withPresent_cons rfl fun h => by rw [h],
    withPresent_cons rfl fun h => by rw [h], withPresent_cons rfl fun h => by rw [h],
    withPresent_cons rfl fun h => by rw [h], withPresent_cons rfl fun h => absurd h hstrict',
    withPresent_cons rfl fun h => absurd h hproxy']
  rfl

/-! ## In a file -/

variable {s : Settings} (h : s.WellTyped)

include h

/-- **What settings are written as is read as these settings.** -/
theorem ofText_text : ofText? s.text = some s := by
  rw [ofText?, text, Toml.parse_text h.line (nodup_keys s), Option.map_some, ofKnown_entries h]

/-- **Settings that were kept are found again.** This puts the layers together: the octets of the
file are read back as they were written, the octets as the text, and the text as the settings. -/
theorem load_save {disk kept : Files.Disk} {path : String} (hsave : save disk path s = .ok kept) :
    load kept path "" = .ok (some s) := by
  have hread : kept.read path = .ok (Text.encodeUtf8 s.text) := (Files.Disk.read_write hsave).1
  -- no line was written with a carriage return, so reading unifies nothing
  have hbreaks : Text.unifyBreaks s.text.toList = s.text.toList :=
    Text.unifyBreaks_of_not_mem (Toml.carriageReturn_not_mem_text h.line)
  have hchoose : choose kept path "" = path := rfl
  unfold load
  dsimp only
  rw [hchoose, hread]
  dsimp only
  rw [Text.decodeUtf8_encodeUtf8]
  dsimp only
  rw [hbreaks, String.ofList_toList, ofText_text h]

end Settings

end ApiOutline
