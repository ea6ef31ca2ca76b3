/-
In which of two languages a description is written.

The language is told by one character, the first that is no blank: behind an opening brace JSON is
expected, and YAML everywhere else. This never takes a JSON object for YAML, because the reader of
JSON skips only blanks in front of a value and reads an object nowhere but at an opening brace
(`looksLikeJson_of_parse`). So what is an object in JSON is loaded.

The other way round it is not so. YAML has a form with braces, too, in which names need no quotes.
A mapping that is written in it is read as JSON, and then it is loaded only if it is that as well
(`load_detected`).
-/
import ApiOutline.Proofs.Loading

set_option autoImplicit false

namespace ApiOutline

/-! ## Objects in JSON -/

namespace Json

/-- A value that is no object. -/
def IsPlain (v : Value) : Prop := ∀ es, v ≠ .object es

theorem isPlain_scalar (s : Scalar) : IsPlain (.scalar s) := by
  intro es h
  cases h

theorem isPlain_list (xs : List Value) : IsPlain (.list xs) := by
  intro es h
  cases h

/-- The words of JSON stand for scalars. -/
theorem isPlain_of_readWord {cs rest : List Char} {v : Value} (h : readWord cs = some (v, rest)) :
    IsPlain v := by
  obtain ⟨⟨word, w⟩, hmem, hfound⟩ := List.exists_of_findSome?_eq_some h
  obtain ⟨behind, -, heq⟩ := Option.map_eq_some_iff.1 hfound
  obtain rfl := (Prod.mk.inj heq).1
  simp only [wordValues, List.mem_cons, List.not_mem_nil, or_false, Prod.mk.injEq] at hmem
  rcases hmem with ⟨-, rfl⟩ | ⟨-, rfl⟩ | ⟨-, rfl⟩ | ⟨-, rfl⟩ | ⟨-, rfl⟩
  all_goals exact isPlain_scalar _

/-- A number is a scalar, be it whole or not. -/
theorem isPlain_of_readMagnitude {start cs rest : List Char} {negative : Bool} {v : Value}
    (h : readMagnitude start negative cs = .ok (v, rest)) : IsPlain v := by
  unfold readMagnitude at h
  split at h
  · exact nomatch h
  · dsimp only at h
    split at h
    · split at h
      · obtain rfl := (Prod.mk.inj (Except.ok.inj h)).1
        exact isPlain_scalar _
      · exact nomatch h
    · obtain rfl := (Prod.mk.inj (Except.ok.inj h)).1
      exact isPlain_scalar _

/-- So is a number with a sign, and so is infinity with one. -/
theorem isPlain_of_readNumber {cs rest : List Char} {v : Value}
    (h : readNumber cs = .ok (v, rest)) : IsPlain v := by
  unfold readNumber at h
  split at h
  · split at h
    · obtain rfl := (Prod.mk.inj (Except.ok.inj h)).1
      exact isPlain_scalar _
    · exact isPlain_of_readMagnitude h
  · exact isPlain_of_readMagnitude h

/-- What is no object stays none, whatever is left behind it. -/
theorem isPlain_of_map {α : Type} {r : Read α} {f : α → Value} (hf : ∀ a, IsPlain (f a))
    {rest : List Char} {v : Value} (h : (r.map fun p => (f p.1, p.2)) = .ok (v, rest)) :
    IsPlain v := by
  obtain ⟨p, -, hp⟩ := Outcome.map_eq_ok_iff.1 h
  obtain rfl := (Prod.mk.inj hp).1
  exact hf p.1

/-- **An object begins with an opening brace.** -/
theorem head_of_readValue {fuel room : Nat} {cs rest : List Char} {es : List (Scalar × Value)}
    (h : readValue fuel room cs = .ok (.object es, rest)) : cs.head? = some '\x7b' := by
  unfold readValue at h
  split at h
  · exact nomatch h
  -- the character in front decides what is read, and only one of the cases ends in an object
  · split at h
    · exact absurd rfl (isPlain_of_map (fun s => isPlain_scalar (.str s)) h es)
    · rfl
    · split at h
      · exact nomatch h
      · split at h
        · exact nomatch h
        · exact absurd rfl (isPlain_of_map isPlain_list h es)
    · split at h
      · next found hword =>
        obtain rfl := Except.ok.inj h
        exact absurd rfl (isPlain_of_readWord hword es)
      · exact absurd rfl (isPlain_of_readNumber h es)

/-- Blanks in front of a value are blanks in front of a text. -/
theorem isBlank_of_isSpace {c : Char} (h : isSpace c = true) : Text.isBlank c = true := by
  simp only [isSpace, Bool.or_eq_true, beq_iff_eq] at h
  rcases h with ((rfl | rfl) | rfl) | rfl
  all_goals decide

/-- Skipping blanks as JSON has them gets as far as skipping all blanks, if what is met then is no
blank at all. -/
theorem dropWhile_isBlank {cs rest : List Char} {c : Char} (h : skipSpace cs = c :: rest)
    (hc : Text.isBlank c = false) : cs.dropWhile Text.isBlank = c :: rest := by
  induction cs with
  | nil => exact nomatch h
  | cons d cs ih =>
    unfold skipSpace at h ih
    rw [List.dropWhile_cons] at h ⊢
    split at h
    · next hspace => rw [if_pos (isBlank_of_isSpace hspace), ih h]
    · obtain ⟨rfl, rfl⟩ := List.cons.inj h
      rw [if_neg (by rw [hc]; exact Bool.false_ne_true)]

/-- **What is an object in JSON looks like JSON.** The parser passes over blanks and then meets a
brace, and whoever looks at the text passes over at least as much. -/
theorem looksLikeJson_of_parse {text : String} {es : List (Scalar × Value)}
    (h : parse text = .ok (.object es)) : Loading.looksLikeJson text = true := by
  obtain ⟨⟨v, rest⟩, hvalue, hend⟩ := Outcome.bind_eq_ok_iff.1 (Outcome.mapError_eq_ok h)
  have hv : v = .object es := by
    dsimp only at hend
    split at hend
    · exact Except.ok.inj hend
    · exact nomatch hend
  subst hv
  obtain ⟨behind, hbehind⟩ := List.head?_eq_some_iff.1 (head_of_readValue hvalue)
  have hbrace : Text.isBlank '\x7b' = false := by decide
  rw [Loading.looksLikeJson, dropWhile_isBlank hbehind hbrace]
  rfl

end Json

/-- **Every object in JSON is loaded, and every mapping in YAML without a brace in front.** With a
brace in front a mapping is what it is in JSON, so it is loaded if the text is JSON at all. The
form of a text is told by its first character, and no other one is tried when reading it in that
form fails. -/
theorem load_detected {disk : Files.Disk} (network : Web.Network) {location text : String}
    (haddress : Loading.isAddress location = false)
    (hread : Loading.readFile disk location = .ok text) :
    let loaded := (load disk network (.str location)).2
    (∀ es, Json.parse text = .ok (.object es) → loaded = .ok (.object es)) ∧
      ∀ es, Yaml.parse text = .ok (.object es) →
        (Loading.looksLikeJson text = false → loaded = .ok (.object es)) ∧
        (Loading.looksLikeJson text = true →
          ∀ v, loaded = .ok v ↔ Json.parse text = .ok v ∧ ∃ fs, v = .object fs) := by
  intro loaded
  have hloaded : loaded = (Loading.parse text).bind (Loading.asObject location) :=
    Loading.load_of_readFile network haddress hread
  -- an object in JSON, a mapping without a brace in front, and one with a brace
  refine ⟨fun es hjson => ?_, fun es hyaml => ⟨fun hno => ?_, fun hbrace v => ?_⟩⟩
  · rw [hloaded, Loading.parse_of_looksLikeJson (Json.looksLikeJson_of_parse hjson), hjson]
    rfl
  · rw [hloaded, Loading.parse_of_not_looksLikeJson hno, hyaml]
    rfl
  · rw [hloaded, Loading.parse_of_looksLikeJson hbrace]
    constructor
    · intro h
      obtain ⟨w, hw, hobject⟩ := Outcome.bind_eq_ok_iff.1 h
      obtain ⟨rfl, hes⟩ := Loading.asObject_eq_ok_iff.1 hobject
      exact ⟨Outcome.mapError_eq_ok hw, hes⟩
    · rintro ⟨hv, fs, rfl⟩
      rw [hv]
      rfl

/-! ### A mapping in braces

A text of one entry whose name is not in quotes. What YAML makes of it is found stage by stage. -/

namespace Braced

open Yaml

def text : String := "\x7ba: 1\x7d"

/-- The entries that are written there. -/
def entries : List (Scalar × Value) := [(.str "a", .int 1)]

def tokens : List Placed :=
  [⟨.flowMappingStart, ⟨0, 0⟩⟩, ⟨.key, ⟨0, 1⟩⟩, ⟨.scalar "a" true, ⟨0, 1⟩⟩, ⟨.value, ⟨0, 2⟩⟩,
    ⟨.scalar "1" true, ⟨0, 4⟩⟩, ⟨.flowMappingEnd, ⟨0, 5⟩⟩, ⟨.textEnd, ⟨0, 6⟩⟩]

/-- The tokens of the text, with the places where they stand. -/
theorem scan_text : Token.scan text.toList = .ok ⟨tokens, none⟩ := by rfl

/-- The mapping, its key and its value. -/
def document : Document where
  nodes := #[⟨.mapping, .mapping [(1, 2)]⟩, ⟨.text, .text "a"⟩, ⟨.int, .text "1"⟩]
  root := 0

/-- The tokens make a document of three nodes: the mapping, its key and its value. -/
theorem ofTokens_tokens : Document.ofTokens ⟨tokens, none⟩ = .ok (some document) := by rfl

/-- What is known when the mapping has been met. -/
def met : PartFinder where
  nodes := document.nodes
  known := #[some (.object []), none, none]
  met := #[0]

/-- The parts of the mapping, of its key and of its value. -/
def parts : Array (Option Part) :=
  #[some (.object [(.str "a", 2)]), some (.scalar (.str "a")), some (.scalar (.int 1))]

/-- What is known when its entries have been met, too. -/
def entered : PartFinder :=
  { met with known := parts.setIfInBounds 0 (some (.object [])) }

/-- Nothing is to be merged into the mapping. -/
theorem mergeInto_met : (PartFinder.mergeInto 0).run met = .ok ((), met) := by
  have hfuel : Merging.fuelFor document.nodes = 99 + 1 := by
    simp [Merging.fuelFor, document, Merging.sizeOf]
  have habsorb : (Merging.absorb (99 + 1) 0).run document.nodes = .ok ((), document.nodes) := by
    rw [Merging.absorb]
    rfl
  have hget : (get : PartFinder.M PartFinder).run met = .ok (met, met) := rfl
  have hmet : met.nodes = document.nodes := rfl
  rw [PartFinder.mergeInto, StateT.run_bind, hget, Outcome.ok_bind]
  dsimp only
  rw [hmet, hfuel, habsorb]
  rfl

/-- With nothing to merge, the entries of the mapping are those that are written in it. Its key is
a text and its value is still to be found. -/
theorem entriesAt_met : (PartFinder.entriesAt 0).run met = .ok ([(.str "a", 2)], entered) := by
  unfold PartFinder.entriesAt
  rw [StateT.run_bind]
  change (StateT.run (do PartFinder.mergeInto 0; _) met) = _
  rw [StateT.run_bind, mergeInto_met]
  rfl

/-- Each node becomes one part. -/
theorem parts_document : document.parts = .ok parts := by
  have hparts : (PartFinder.partsAt 0).run met = .ok (.object [(.str "a", 2)], entered) := by
    change ((PartFinder.entriesAt 0).run met).bind (fun r => .ok (Part.object r.1, r.2)) = _
    rw [entriesAt_met]
    rfl
  change ((PartFinder.complete (3 + 1) 0).run met).bind (fun r => .ok r.2.known) = _
  rw [PartFinder.complete]
  change (((PartFinder.partsAt 0).run met).bind fun r =>
    (do PartFinder.setKnown 0 r.1; PartFinder.complete 3 1 : PartFinder.M Unit).run r.2).bind _ = _
  rw [hparts]
  rfl

/-- The parts are put together from the outermost inwards, and nothing in the document is met
twice. -/
theorem value_document : document.value = .ok (.object entries) := by
  have hrun : (assemble parts 28 [] 0).run (Array.replicate 3 none) =
      pure (⟨.object entries, false⟩, ((Array.replicate 3 none).setIfInBounds 2
        (some (.int 1))).setIfInBounds 0 (some (.object entries))) := by
    simp [assemble, assemblePart, assembleEntries, parts, againLimit, entries]
  unfold Document.value
  rw [parts_document]
  change Except.ok ((assemble parts 28 [] 0).run (Array.replicate 3 none)).1.value = _
  rw [hrun]
  rfl

/-- So the text is a mapping of one entry to the reader of YAML. -/
theorem yaml_text : Yaml.parse text = .ok (.object entries) := by
  unfold Yaml.parse
  rw [scan_text]
  change ((Document.ofTokens ⟨tokens, none⟩).mapError Failure.malformed).bind _ = _
  rw [ofTokens_tokens]
  exact value_document

/-- A disk with the text in a file. -/
def disk : Files.Disk :=
  .ofFiles ["shelf"] [(["spec.yaml"], text.toUTF8.toList)]

/-- The file on the disk has this text. -/
theorem readFile_disk : Loading.readFile disk "spec.yaml" = .ok text := by
  have hread : disk.read "spec.yaml" = .ok text.toUTF8.toList := by rfl
  have hdecode : Text.decodeUtf8? text.toUTF8.toList = some text := by decide +kernel
  unfold Loading.readFile
  rw [hread, Except.mapError, Outcome.ok_bind, hdecode]
  rfl

end Braced

/-- For this file, which begins with a brace, loading comes down to what the text is in JSON. -/
theorem load_detected_braced :
    Loading.isAddress "spec.yaml" = false ∧
      Loading.readFile Braced.disk "spec.yaml" = .ok Braced.text ∧
      ∀ v, (load Braced.disk [] (.str "spec.yaml")).2 = .ok v ↔
        Json.parse Braced.text = .ok v ∧ ∃ fs, v = .object fs :=
  ⟨rfl, Braced.readFile_disk,
    ((load_detected [] rfl Braced.readFile_disk).2 Braced.entries Braced.yaml_text).2 rfl⟩

/-- A mapping that is written in braces without quotes is a description, and is not loaded: it is
taken for JSON, and it is none. -/
theorem not_load_lossless :
    ¬ ∀ (disk : Files.Disk) (network : Web.Network) (location text : String),
      Loading.isAddress location = false → Loading.readFile disk location = .ok text →
      ((∃ es, Yaml.parse text = .ok (.object es)) ∨ ∃ es, Json.parse text = .ok (.object es)) →
      ∃ v, (load disk network (.str location)).2 = .ok v := by
  intro h
  obtain ⟨v, hv⟩ := h Braced.disk [] "spec.yaml" Braced.text rfl Braced.readFile_disk
    (.inl ⟨Braced.entries, Braced.yaml_text⟩)
  have hjson : (Json.parse Braced.text).isOk = false := by decide +kernel
  rw [Loading.load_of_readFile [] rfl Braced.readFile_disk,
    Loading.parse_of_looksLikeJson rfl] at hv
  obtain ⟨w, hw, -⟩ := Outcome.bind_eq_ok_iff.1 hv
  rw [Outcome.mapError_eq_ok hw] at hjson
  exact nomatch hjson

end ApiOutline
