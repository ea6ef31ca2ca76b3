/-
Loading a description.

Where a description is loaded from a file, what comes of it is told by the text of the file alone:
which language it is read in, and whether it is an object (`load_of_readFile`). And where a text
says what to load, whatever else may fail, a location is never missing (`load_ne_noLocation`).
-/
import ApiOutline.Loading
import ApiOutline.Proofs.Outcome

set_option autoImplicit false

namespace ApiOutline.Loading

/-! ## From files -/

section

variable {disk : Files.Disk} {location text : String}

/-- What can be read is there. -/
theorem has_of_readFile (h : readFile disk location = .ok text) : disk.has location = true := by
  obtain ⟨octets, hoctets, -⟩ := Outcome.bind_eq_ok_iff.1 h
  have hread := Outcome.mapError_eq_ok hoctets
  unfold Files.Disk.read at hread
  split at hread
  · next hfind => rw [Files.Disk.has, hfind]; rfl
  · exact nomatch hread
  · exact nomatch hread

/-- A description in a file is what its text writes. -/
theorem load_of_readFile (network : Web.Network) (haddress : isAddress location = false)
    (hread : readFile disk location = .ok text) :
    (load disk network (.str location)).2 = (parse text).bind (asObject location) := by
  have htext : readText disk network location = ([], .ok text) := by
    rw [readText, haddress, if_neg Bool.false_ne_true, if_pos (has_of_readFile hread), hread]
  unfold load
  dsimp only
  rw [htext]
  rfl

/-- A description is an object, and is taken as it is. -/
theorem asObject_eq_ok_iff {v w : Value} :
    asObject location v = .ok w ↔ w = v ∧ ∃ es, v = .object es := by
  unfold asObject
  split
  · next es =>
    exact ⟨fun h => ⟨(Except.ok.inj h).symm, es, rfl⟩, fun h => congrArg Except.ok h.1.symm⟩
  · next hno => exact ⟨fun h => (nomatch h), fun ⟨_, es, hes⟩ => (hno es hes).elim⟩

/-- A text that looks like JSON is read as JSON, and nothing else is tried. -/
theorem parse_of_looksLikeJson (h : looksLikeJson text = true) :
    parse text = (Json.parse text).mapError .json := if_pos h

/-- Any other text is read as YAML. -/
theorem parse_of_not_looksLikeJson (h : looksLikeJson text = false) :
    parse text = (Yaml.parse text).mapError .yaml :=
  if_neg (by rw [h]; exact Bool.false_ne_true)

end

/-! ## Where no location is missing -/

/-- Whatever else may keep a text from being read, a location was there. The cases are the places
it can be read from: the network, a file, and neither. -/
theorem readText_ne_noLocation (disk : Files.Disk) (network : Web.Network) (location : String) :
    (readText disk network location).2 ≠ .error .noLocation := by
  unfold readText
  -- the network first, where the location looks like an address
  split
  · generalize Web.fetch network location = fetched
    obtain ⟨asked, r⟩ := fetched
    cases r with
    | error f => exact fun h => nomatch h
    | ok text => exact fun h => nomatch h
  · split
    · unfold readFile
      cases disk.read location with
      | error f => exact fun h => nomatch h
      | ok octets =>
        cases htext : Text.decodeUtf8? octets with
        | none =>
          rw [Except.mapError, Outcome.ok_bind, htext]
          exact fun h => nomatch h
        | some s =>
          rw [Except.mapError, Outcome.ok_bind, htext]
          exact fun h => nomatch h
    · exact fun h => nomatch h

/-- Nor is one missing when what was read is no object. -/
theorem asObject_ne_noLocation (location : String) (v : Value) :
    asObject location v ≠ .error .noLocation := by
  unfold asObject
  split
  · exact fun h => nomatch h
  · exact fun h => nomatch h

/-- Where a text says what to load, that is never missing. None of the steps of loading makes this
fault: neither reading, nor the parsers, nor the question whether the value is an object. -/
theorem load_ne_noLocation (disk : Files.Disk) (network : Web.Network) (location : String) :
    (load disk network (.str location)).2 ≠ .error .noLocation := by
  have htext := readText_ne_noLocation disk network location
  change ((readText disk network location).2.bind parse).bind
    (asObject location) ≠ _
  cases hread : (readText disk network location).2 with
  | error f =>
    intro h
    obtain rfl : f = .noLocation := Except.error.inj h
    exact htext hread
  | ok text =>
    change (parse text).bind (asObject location) ≠ _
    -- what is left is a fault of JSON or of YAML, or of the value that was read
    unfold parse
    split
    · cases Json.parse text with
      | error m => exact fun h => nomatch h
      | ok v => exact asObject_ne_noLocation location v
    · cases Yaml.parse text with
      | error f => exact fun h => nomatch h
      | ok v => exact asObject_ne_noLocation location v

end ApiOutline.Loading
