/-
Failures are reported.

A command that decodes goes through four stages: the settings are found, the description is loaded,
it is decoded, and the outline goes where it belongs. A stage that fails ends the command, and the
cause says how. What is not there or cannot be fetched, what is no JSON and no YAML, a description
that is refused and a file that cannot be written are reported on a line of their own, and the
status is 1 (`Reported`). A document in another shape than that of a description is taken apart
until a value cannot answer what it is asked, and a node with too many levels is taken apart until
it would have to be copied; such a cause is passed on as it is (`Fault.isNative`). That there are no
settings is no failure.

So a command has nine ways to end (`Ended`), and only one of them is neither a return nor an exit.
What is asked of the surroundings of a command for that is said in `Handled`.
-/
import ApiOutline.Proofs.Command.Delivery
import ApiOutline.Proofs.Found
import ApiOutline.Proofs.Loading

set_option autoImplicit false

namespace ApiOutline

/-- Is a fault one in the shape of a document: a key that is missing, an element that is not there,
a value of another kind than the one that is needed, or more levels in a node than can be copied or
written? -/
def Fault.isNative : Fault → Bool
  | .missingKey _ | .outOfRange | .noSuchOperation | .wrongType | .tooNested => true
  | .refused _ | .unsupportedRange _ | .invalidRecord .. | .tooManyDigits _ | .unwritable
  | .undecodable | .endless | .tooDeep => false

namespace Command

open Files (Disk)

/-! ## Reports -/

/-- A command was given up: a message says so on the last line, nothing was printed, and the status
is 1. -/
structure GivenUp (m : Message) (r : Outcome) : Prop where
  ending : r.ending = .exited 1
  stdout : r.stdout = ""
  told : ∃ before, r.stderr = before ++ m.text ++ "\n"

/-- A fault is reported. -/
def Reported (f : Fault) (r : Outcome) : Prop := GivenUp (.failed f) r

/-- Nothing is written to standard output by messages, and on standard error each has its own
line, behind those that were there. -/
theorem Message.lines_append {m : Message} (hm : m.isPlain = true) (verbose : Bool)
    (told : List Message) :
    Message.lines verbose (told ++ [m]) = Message.lines verbose told ++ m.text ++ "\n" := by
  have hkept : [m].filter (fun m => verbose || m.isPlain) = [m] :=
    List.filter_cons_of_pos (by rw [hm, Bool.or_true])
  rw [lines, lines, List.filter_append, hkept, List.map_append, String.join_append,
    List.map_singleton, String.join_cons, String.join_nil, String.append_empty,
    ← String.append_assoc]

/-- A reported fault ends a command with status 1. -/
theorem reported_failure {f : Fault} (hf : f.isReported = true) (disk : Disk) (verbose : Bool)
    (told : List Message) : Reported f (failure disk verbose told f) := by
  rw [failure, if_pos hf]
  exact ⟨rfl, rfl, _, Message.lines_append rfl verbose told⟩

/-- What decoding can end in is reported or native, and never both. -/
theorem isReported_decoding_eq (f : ApiOutline.Fault) :
    (Fault.decoding f).isReported = !f.isNative := by
  cases f with
  -- the two lists of constructors are complementary, so each fault is on one of them
  | missingKey | outOfRange | noSuchOperation | wrongType | tooNested => rfl
  | refused | unsupportedRange | invalidRecord | tooManyDigits | unwritable | undecodable | endless
  | tooDeep => rfl

/-- Whatever is no fault of the language itself is reported when decoding fails for it. -/
theorem isReported_decoding {f : ApiOutline.Fault} (hf : f.isNative = false) :
    (Fault.decoding f).isReported = true := by
  rw [isReported_decoding_eq, hf, Bool.not_false]

/-- Faults of loading that are none of the network, of JSON or of YAML, although they come up there:
an address or an encoding that is none, too many levels, and values in YAML whose form or tag
promises what the text does not keep. -/
inductive Unforeseen : Loading.Fault → Prop where
  | address (d : Web.Address.Defect) : Unforeseen (.web (.badAddress d))
  | pieces : Unforeseen (.web (.badBody (.contentType .unorderedPieces)))
  | fromOctets : Unforeseen (.web (.badBody (.undecodable .octets)))
  | fromTexts : Unforeseen (.web (.badBody (.undecodable .texts)))
  | levelsOfJson {m : Json.Malformed} (h : m.defect = .tooDeep) : Unforeseen (.json m)
  | levelsOfYaml (place : Option Yaml.Place) : Unforeseen (.yaml (.malformed ⟨.tooDeep, place⟩))
  | character {code : Nat} (h : 0x80000000 ≤ code) (place : Option Yaml.Place) :
    Unforeseen (.yaml (.malformed ⟨.noSuchCharacter code, place⟩))
  | word (text : String) : Unforeseen (.yaml (.unknownWord text))
  | time : Unforeseen (.yaml .notATime)
  | timeInParts : Unforeseen (.yaml .timeInParts)
  | number : Unforeseen (.yaml .emptyNumber)
  | sixties : Unforeseen (.yaml .tooManySixties)
  | endless : Unforeseen (.yaml .endless)

/-- Of the network everything is reported but addresses that are none and bodies in encodings of
something else than text. -/
theorem webIsReported_of_foreseen {f : Web.Fault} (hf : ¬ Unforeseen (.web f)) :
    Fault.webIsReported f = true := by
  cases f with
  | badAddress d => exact absurd (.address d) hf
  | badBody d =>
    cases d with
    | contentType d =>
      cases d with
      | unorderedPieces => exact absurd .pieces hf
    | undecodable d =>
      cases d with
      | octets => exact absurd .fromOctets hf
      | texts => exact absurd .fromTexts hf
      | _ => rfl
  | unreachable | tooManyRedirects | badRedirect | badName | notAscii | badPacking | noScheme
  | refused => rfl

/-- Of YAML everything is reported that the notation itself finds wrong, but for characters of more
than 32 bits and levels beyond those there are. -/
theorem yamlIsReported_of_foreseen {f : Yaml.Failure} (hf : ¬ Unforeseen (.yaml f)) :
    Fault.yamlIsReported f = true := by
  cases f with
  | malformed m =>
    obtain ⟨defect, place⟩ := m
    cases defect with
    | noSuchCharacter code =>
      exact decide_eq_true (Nat.lt_of_not_le fun h => hf (.character h place))
    | tooDeep => exact absurd (.levelsOfYaml place) hf
    | _ => rfl
  | unknownWord text => exact absurd (.word text) hf
  | notATime => exact absurd .time hf
  | timeInParts => exact absurd .timeInParts hf
  | emptyNumber => exact absurd .number hf
  | tooManySixties => exact absurd .sixties hf
  | endless => exact absurd .endless hf
  | notAnInteger | notANumber | tooManyDigits | noSuchTime => rfl

/-- Whatever is foreseen is reported, where there is a location at all. -/
theorem isReported_loading {f : Loading.Fault} (hf : ¬ Unforeseen f) (hlocation : f ≠ .noLocation) :
    (Fault.loading f).isReported = true := by
  cases f with
  | noLocation => exact absurd rfl hlocation
  | notFound | notAnObject | file | notText => rfl
  | web f => exact webIsReported_of_foreseen hf
  | json m => exact decide_eq_true fun h => hf (.levelsOfJson h)
  | yaml f => exact yamlIsReported_of_foreseen hf

/-- A fault in the shape of a document ends a command as it is. -/
theorem ending_failure_native {f : ApiOutline.Fault} (hf : f.isNative = true) (disk : Disk)
    (verbose : Bool) (told : List Message) :
    (failure disk verbose told (.decoding f)).ending = .broken (.decoding f) := by
  have hreported : (Fault.decoding f).isReported = false := by
    rw [isReported_decoding_eq, hf, Bool.not_true]
  rw [failure, if_neg (by rw [hreported]; exact Bool.false_ne_true)]

/-! ## Commands that decode -/

/-- What a command line asks to be decoded: it is no request to keep the settings, and the settings
are those in the file with what was given on top. -/
structure Decodes (disk : Disk) (arguments : List String) (a : Arguments) (s : Settings) :
    Prop where
  parsed : parse arguments = .ok (.run a)
  decodes : a.initConfig = false
  settings : ∃ path stored, a.config = some path ∧ Settings.load disk path "" = .ok stored ∧
    s = Settings.merge a.given (stored.getD {})

/-- The outline of a description as it is written. -/
def outlined (spec : Value) (o : Options) : Except ApiOutline.Fault Value :=
  (outlineOf spec o).outcome

/-- What can be asked of the surroundings of a command: settings are texts where texts are needed,
in a file of text, or can be kept in one, and what keeps a description from being loaded is
foreseen. -/
structure Handled (disk : Disk) (network : Web.Network) (arguments : List String) : Prop where
  /-- The file with the settings is named by a path. -/
  named : ∀ a, parse arguments = .ok (.run a) → a.config ≠ none
  kept : ∀ a path, parse arguments = .ok (.run a) → a.initConfig = true → a.config = some path →
    ∃ after, Settings.save disk path (Settings.merge a.given {}) = .ok after
  text : ∀ a path, parse arguments = .ok (.run a) → a.initConfig = false → a.config = some path →
    ¬ Settings.HoldsNoText disk path
  spec : ∀ a s, Decodes disk arguments a s → s.spec.truthy = true →
    ∃ location, s.spec = .str location
  output : ∀ a s, Decodes disk arguments a s → s.output.truthy = true →
    ∃ path, s.output = .str path
  foreseen : ∀ a s f, Decodes disk arguments a s →
    (load disk network s.spec).2 = .error f → ¬ Unforeseen f

/-- How a command ended. -/
inductive Ended (disk : Disk) (network : Web.Network) (arguments : List String) (r : Outcome) :
    Prop where
  | helped (hparse : parse arguments = .ok .help) (hending : r.ending = .exited 0)
  | misused {m : Misuse} (hparse : parse arguments = .error m) (hending : r.ending = .exited 2)
  | created {a : Arguments} (hparse : parse arguments = .ok (.run a)) (hinit : a.initConfig = true)
      (hending : r.ending = .returned)
  | unasked {a : Arguments} {s : Settings} (hdecodes : Decodes disk arguments a s)
      (hspec : s.spec.truthy = false) (hgivenUp : GivenUp .noSpec r)
  | notLoaded {a : Arguments} {s : Settings} {f : Loading.Fault}
      (hdecodes : Decodes disk arguments a s) (hspec : s.spec.truthy = true)
      (hload : (load disk network s.spec).2 = .error f) (hreported : Reported (.loading f) r)
  | notDecoded {a : Arguments} {s : Settings} {spec : Value} {f : ApiOutline.Fault}
      (hdecodes : Decodes disk arguments a s) (hspec : s.spec.truthy = true)
      (hload : (load disk network s.spec).2 = .ok spec)
      (houtlined : outlined spec s.options = .error f) (hnative : f.isNative = false)
      (hreported : Reported (.decoding f) r)
  | native {a : Arguments} {s : Settings} {spec : Value} {f : ApiOutline.Fault}
      (hdecodes : Decodes disk arguments a s) (hspec : s.spec.truthy = true)
      (hload : (load disk network s.spec).2 = .ok spec)
      (houtlined : outlined spec s.options = .error f) (hnative : f.isNative = true)
      (hending : r.ending = .broken (.decoding f))
  | notWritten {a : Arguments} {s : Settings} {text path : String} {f : Files.Fault}
      (hdecodes : Decodes disk arguments a s) (hspec : s.spec.truthy = true)
      (hwrites : Writes disk network s text) (houtput : s.output = .str path)
      (hwrite : (writeFile disk path text).2 = .error f) (hreported : Reported (.file f) r)
  | done {a : Arguments} {s : Settings} {text : String} (hdecodes : Decodes disk arguments a s)
      (hspec : s.spec.truthy = true) (hwrites : Writes disk network s text)
      (hdelivered : Delivered disk r.disk s.output text r.stdout) (hending : r.ending = .returned)

/-- With what is found in the file the command goes on. -/
theorem exists_settingsOf {disk : Disk} {path : String} (a : Arguments) {stored : Option Settings}
    (h : Settings.load disk path "" = .ok stored) :
    ∃ told, settingsOf disk path a = .ok (Settings.merge a.given (stored.getD {}), told) := by
  unfold settingsOf
  rw [h]
  cases stored with
  | none => exact ⟨[], rfl⟩
  | some s => exact ⟨[.using path], rfl⟩

/-- There is no outline if the description could not be loaded or could not be decoded. The fault
keeps which of the two it was, since it depends on that whether it is reported. -/
theorem outlineText_error {disk : Disk} {network : Web.Network} {s : Settings} {location : String}
    (hspec : s.spec = .str location) {told : List Message} {f : Fault}
    (h : outlineText disk network s = (told, .error f)) :
    (∃ g, f = .loading g ∧ (load disk network s.spec).2 = .error g) ∨
      ∃ spec g, f = .decoding g ∧ (load disk network s.spec).2 = .ok spec ∧
        outlined spec s.options = .error g := by
  unfold outlineText at h
  generalize hload : load disk network s.spec = loaded at h
  obtain ⟨asked, loaded⟩ := loaded
  rw [hspec, Value.checkText_str] at h
  -- either loading failed, or what comes after it did
  cases loaded with
  | error g => exact .inl ⟨g, (Except.error.inj (Prod.mk.inj h).2).symm, rfl⟩
  | ok spec =>
    have hform := (Prod.mk.inj h).2
    change ((outlined spec s.options).map _).mapError _ = _ at hform
    cases houtlined : outlined spec s.options with
    | ok form =>
      rw [houtlined] at hform
      exact nomatch hform
    | error g =>
      rw [houtlined] at hform
      exact .inr ⟨spec, g, (Except.error.inj hform).symm, rfl, houtlined⟩

/-- What cannot be delivered could not be written, or there was no path for it. -/
theorem deliver_error_cases {disk after : Disk} {output : Value} {text : String} {f : Fault}
    (h : deliver disk output text = (after, .error f)) :
    (∃ path g, output = .str path ∧ f = .file g ∧ (writeFile disk path text).2 = .error g) ∨
      (output.truthy = true ∧ ∀ path, output ≠ .str path) := by
  unfold deliver at h
  by_cases houtput : output.truthy = true
  · rw [if_pos houtput] at h
    -- only a text is a path to write to
    split at h
    · next path =>
      generalize hwrite : writeFile disk path text = r at h
      obtain ⟨written, result⟩ := r
      cases result with
      | error g =>
        exact .inl ⟨path, g, rfl, (Except.error.inj (Prod.mk.inj h).2).symm, by rw [hwrite]⟩
      | ok done => exact nomatch (Prod.mk.inj h).2
    · next hpath => exact .inr ⟨houtput, fun path heq => hpath path heq⟩
  · rw [if_neg houtput] at h
    exact nomatch (Prod.mk.inj h).2

section

variable {disk : Disk} {network : Web.Network} {arguments : List String}
  (h : Handled disk network arguments) {a : Arguments} {s : Settings}
  (hdecodes : Decodes disk arguments a s)

include h hdecodes

/-- A description that cannot be loaded is reported. -/
theorem Handled.isReported (hspec : s.spec.truthy = true) {f : Loading.Fault}
    (hload : (load disk network s.spec).2 = .error f) : (Fault.loading f).isReported = true := by
  obtain ⟨location, hlocation⟩ := h.spec a s hdecodes hspec
  refine isReported_loading (h.foreseen a s f hdecodes hload) ?_
  rintro rfl
  exact Loading.load_ne_noLocation disk network location (hlocation ▸ hload)

/-- **Decoding ends in one of the ways of `Ended`**, once the arguments have been read and the
settings found. The cases are where the run can stop: nothing to decode, a description that cannot
be loaded, one that cannot be decoded, an outline that cannot be written, and none of these. -/
theorem Handled.ended_decodeWith (told : List Message) :
    Ended disk network arguments (decodeWith disk network a.verbose s told) := by
  unfold decodeWith
  by_cases hspec : s.spec.truthy = true
  · rw [if_pos hspec]
    generalize houtline : outlineText disk network s = outline
    obtain ⟨more, text⟩ := outline
    cases text with
    | error f =>
      obtain ⟨location, hlocation⟩ := h.spec a s hdecodes hspec
      rcases outlineText_error hlocation houtline with
        ⟨g, rfl, hload⟩ | ⟨spec, g, rfl, hload, houtlined⟩
      · exact .notLoaded hdecodes hspec hload
          (reported_failure (h.isReported hdecodes hspec hload) ..)
      -- the native faults are passed on, and all others are reported
      · cases hnative : g.isNative with
        | false =>
          exact .notDecoded hdecodes hspec hload houtlined hnative
            (reported_failure (isReported_decoding hnative) ..)
        | true =>
          exact .native hdecodes hspec hload houtlined hnative (ending_failure_native hnative ..)
    | ok text =>
      -- there is a text from here on, and only writing it can fail
      have hwrites := writes_of_outlineText houtline
      dsimp only
      generalize hdeliver : deliver disk s.output text = delivered
      obtain ⟨after, result⟩ := delivered
      cases result with
      | error f =>
        rcases deliver_error_cases hdeliver with ⟨path, g, houtput, rfl, hwrite⟩ | ⟨houtput, hpath⟩
        · exact .notWritten hdecodes hspec hwrites houtput hwrite (reported_failure rfl ..)
        · obtain ⟨path, heq⟩ := h.output a s hdecodes houtput
          exact absurd heq (hpath path)
      | ok done =>
        obtain ⟨stdout, last⟩ := done
        exact .done hdecodes hspec hwrites (deliver_ok hdeliver) rfl
  · rw [if_neg hspec]
    exact .unasked hdecodes (Bool.not_eq_true _ ▸ hspec)
      ⟨rfl, rfl, _, Message.lines_append rfl a.verbose told⟩

end

/-- A description of a version that no decoder accepts, and one with a part missing. -/
def drawer : Disk :=
  .ofFiles ["drawer"] [(["newer.json"], "\x7b\"openapi\":\"3.0.0\"\x7d".toUTF8.toList),
    (["noinfo.json"], "\x7b\"swagger\":\"2.0\"\x7d".toUTF8.toList)]

/-- Did a command break off? -/
def Ending.isBroken : Ending → Bool
  | .broken _ => true
  | .returned | .exited _ => false

end Command

end ApiOutline
