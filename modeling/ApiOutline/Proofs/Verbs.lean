/-
The keys of a path.

A key of a path is a verb, in any case, or it may mean parameters for all operations of the path.
No key means both: what is a verb in capitals would have to begin with the letters that
`parameters` begins with, and no verb does. So what a path states for all of its operations can be
told from its other keys alone, and where the verbs stand among those makes no difference.
-/
import ApiOutline.Proofs.Outcome
import ApiOutline.Proofs.Text.Letter
import ApiOutline.Decoding.Paths

set_option autoImplicit false

namespace ApiOutline

/-- A verb is not the name under which a path has parameters, however the two are written. -/
theorem lower_ne_parameters {verb : String} (h : Text.upper verb ∈ Decoding.httpVerbs) :
    Text.lower verb ≠ "parameters" := by
  intro hlower
  have hchars : Text.lowerChars verb.toList = "parameters".toList := by
    rw [← hlower, Text.lower, String.toList_ofList]
  obtain ⟨others, hupper⟩ := Text.upperChars_of_lowerChars_par hchars
  have hverbs : ∀ v ∈ Decoding.httpVerbs, v.toList.take 3 ≠ ['P', 'A', 'R'] := by decide
  refine hverbs (Text.upper verb) h ?_
  rw [Text.upper, String.toList_ofList, hupper]
  rfl

namespace Decoding

open Outcome

/-- Is a key of a path a verb? -/
def isVerb : Scalar → Bool
  | .str key => httpVerbs.contains (Text.upper key)
  | _ => false

theorem isVerb_of_verbOf {key : Scalar} {verb : String} (h : verbOf key = .ok (some verb)) :
    isVerb key = true := by
  rw [verbOf] at h
  obtain ⟨name, hname, h⟩ := bind_eq_ok_iff.1 h
  cases key with
  | str key =>
    obtain rfl := Except.ok.inj hname
    obtain ⟨hsome, hverb⟩ := Option.filter_eq_some_iff.1 (Except.ok.inj h)
    rw [isVerb, Option.some.inj hsome]
    exact hverb
  | bytes octets =>
    obtain rfl := Except.ok.inj hname
    exact nomatch Except.ok.inj h
  | _ => exact nomatch hname

/-- What is found for all operations of a path does not change at a verb. -/
theorem sharedParameters_verb {e : Scalar × Value} (h : isVerb e.1 = true) (found : Value) :
    (do
      let name ← spelling e.1
      return if name.map Text.lower = some "parameters" then e.2.orElse (.list []) else found) =
      (.ok found : Except Fault Value) := by
  obtain ⟨key, v⟩ := e
  cases key with
  | str s =>
    have hne : ¬ (some s).map Text.lower = some "parameters" := fun heq =>
      lower_ne_parameters (List.contains_iff_mem.1 h) (Option.some.inj heq)
    rw [spelling, ok_bind, if_neg hne]
    rfl
  | _ => exact nomatch h

/-- **What a path states for all of its operations can be told without the verbs.** -/
theorem sharedParameters_filter (item : Value.Entries) :
    sharedParameters (item.filter (!isVerb ·.1)) = sharedParameters item := by
  refine foldlM_filter (fun found e hverb => ?_) item _
  exact sharedParameters_verb (by simpa using hverb) found

/-- A path of which all keys are verbs states no parameters for all of its operations. -/
theorem sharedParameters_verbs {item : Value.Entries} (h : ∀ e ∈ item, isVerb e.1 = true) :
    sharedParameters item = .ok (.list []) := by
  have hnone : item.filter (!isVerb ·.1) = [] := by
    rw [List.filter_eq_nil_iff]
    intro e he
    rw [h e he]
    exact Bool.false_ne_true
  rw [← sharedParameters_filter, hnone]
  rfl

end Decoding

end ApiOutline
