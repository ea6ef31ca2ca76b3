/-
What is told on the way to an outline.

A run tells what the runs tell that it is made of, so to find a notice one has to know that the run
went where the notice is given. A run that succeeds went everywhere: it passes through each of its
parts (`Passes.bind`), in a loop through each turn (`Passes.foldlM`, `Passes.mapM`), and the part
has succeeded too. Which roster or which number the turn was taken with does not matter here, since
what is told about an entry depends on the entry alone.

From the description down to one entry there are four loops, one inside the other, and what comes
out is that an outline has passed through every entry of every operation
(`passes_pathsParameter`).
-/
import ApiOutline.Proofs.Methods

set_option autoImplicit false

namespace ApiOutline

namespace Trace

variable {α β γ : Type}

/-- A run goes through another that comes to `a`, and tells whatever that one tells. -/
structure Passes (whole : Trace γ) (part : Trace α) (a : α) : Prop where
  outcome : part.outcome = .ok a
  notices : part.notices ⊆ whole.notices

variable {whole : Trace γ}

/-- A run goes through itself. -/
theorem Passes.self {c : γ} (h : whole.outcome = .ok c) : whole.Passes whole c :=
  ⟨h, fun _ hn => hn⟩

/-- **Whoever goes through a sequence goes through both of its parts.** -/
theorem Passes.bind {x : Trace α} {f : α → Trace β} {b : β} (h : whole.Passes (x >>= f) b) :
    ∃ a, whole.Passes x a ∧ whole.Passes (f a) b := by
  have hok := h.outcome
  rw [outcome_bind] at hok
  obtain ⟨a, hx, hf⟩ := Outcome.bind_eq_ok_iff.1 hok
  have hnotices : (x >>= f).notices = x.notices ++ (f a).notices := by
    rw [bind_def, andThen, hx]
  have htold := h.notices
  rw [hnotices] at htold
  exact ⟨a, ⟨hx, fun n hn => htold (List.mem_append_left _ hn)⟩,
    ⟨hf, fun n hn => htold (List.mem_append_right _ hn)⟩⟩

/-- Every turn of a loop is taken, with whatever had come of the turns before it. -/
theorem Passes.foldlM {f : β → α → Trace β} {b c : β} {as : List α}
    (h : whole.Passes (as.foldlM f b) c) {a : α} (ha : a ∈ as) :
    ∃ before after, whole.Passes (f before a) after := by
  induction as generalizing b with
  | nil => exact absurd ha List.not_mem_nil
  | cons first rest ih =>
    rw [List.foldlM_cons] at h
    obtain ⟨b', hfirst, hrest⟩ := h.bind
    rcases List.mem_cons.1 ha with rfl | ha
    · exact ⟨b, b', hfirst⟩
    · exact ih hrest ha

/-- So is every element of a list that is walked through. -/
theorem Passes.mapM {f : α → Trace β} {as : List α} {bs : List β}
    (h : whole.Passes (as.mapM f) bs) {a : α} (ha : a ∈ as) : ∃ b, whole.Passes (f a) b := by
  induction as generalizing bs with
  | nil => exact absurd ha List.not_mem_nil
  | cons first rest ih =>
    rw [List.mapM_cons] at h
    obtain ⟨b, hfirst, hothers⟩ := h.bind
    rcases List.mem_cons.1 ha with rfl | ha
    · exact ⟨b, hfirst⟩
    · obtain ⟨_, hrest, -⟩ := hothers.bind
      exact ih hrest ha

end Trace

namespace Decoding

open Trace Outcome

section Paths

variable {γ : Type} {whole : Trace γ} {spec : Value.Entries} {o : Options}

/-- What is done for an operation goes through each of its entries. They come last, after the
service, the name and the media types, none of which can have failed. -/
theorem passes_of_pathsOperation {version : Option String} {path : Scalar} {shared node : Value}
    {verb : String} {roster roster' : Roster}
    (h : whole.Passes (pathsOperation spec o version path shared verb roster node) roster') :
    ∃ operation nodes, node.entries = .ok operation ∧ parameterNodes operation shared = .ok nodes ∧
      ∀ entry ∈ nodes, ∃ made,
        whole.Passes (pathsParameter spec o (verb ++ " " ++ (Value.scalar path).text) entry)
          made := by
  obtain ⟨⟨key, service⟩, -, h⟩ := h.bind
  obtain ⟨operation, hoperation, h⟩ := h.bind
  obtain ⟨name, -, h⟩ := h.bind
  obtain ⟨unique, -, h⟩ := h.bind
  obtain ⟨method, -, h⟩ := h.bind
  obtain ⟨media, -, h⟩ := h.bind
  obtain ⟨nodes, hnodes, h⟩ := h.bind
  obtain ⟨parameters, hparameters, -⟩ := h.bind
  exact ⟨operation, nodes, hoperation.outcome, hnodes.outcome, fun entry hentry =>
    hparameters.mapM hentry⟩

/-- What is done for a path goes through what is done for the operation under each verb. -/
theorem passes_of_pathsItem {version : Option String} {path : Scalar} {value : Value}
    {roster roster' : Roster}
    (h : whole.Passes (pathsItem spec o version roster (path, value)) roster')
    {item : Value.Entries} {shared node : Value} {key : String} (hitem : value.entries = .ok item)
    (hshared : sharedParameters item = .ok shared) (hnode : (.str key, node) ∈ item)
    (hverb : Text.upper key ∈ httpVerbs) :
    ∃ before after, whole.Passes
      (pathsOperation spec o version path shared (Text.upper key) before node) after := by
  obtain ⟨item', hitem', h⟩ := h.bind
  obtain rfl : item = item' := Except.ok.inj (hitem.symm.trans hitem'.outcome)
  obtain ⟨shared', hshared', h⟩ := h.bind
  obtain rfl : shared = shared' := Except.ok.inj (hshared.symm.trans hshared'.outcome)
  -- the turn that is taken with this key, and the verb it is for
  obtain ⟨before, after, hturn⟩ := h.foldlM hnode
  obtain ⟨verb, hverb', hturn⟩ := hturn.bind
  have hread := hverb'.outcome
  rw [outcome_liftM, verbOf_str, if_pos hverb] at hread
  rw [← Except.ok.inj hread] at hturn
  exact ⟨before, after, hturn⟩

end Paths

/-- **An outline has passed through every entry of every operation.** The run is followed down,
from the description to a path, from there to the operation under a verb, and then to each of its
entries. -/
theorem passes_pathsParameter {es : Value.Entries} {o : Options} {s : Summary}
    (hd : (select (.object es)).outcome = .ok .paths)
    (h : (decode (.object es) o).outcome = .ok s) {op : Operation} (hop : op.FoundIn es .paths) :
    ∃ operation nodes, op.node.entries = .ok operation ∧
      parameterNodes operation op.shared = .ok nodes ∧
      ∀ entry ∈ nodes, ∃ made, (decode (.object es) o).Passes
        (pathsParameter es o (op.verb.text ++ " " ++ op.path.text) entry) made := by
  obtain ⟨d, hselect, hrest⟩ := (Passes.self h).bind
  obtain rfl : Dialect.paths = d := Except.ok.inj (hd.symm.trans hselect.outcome)
  obtain ⟨entries, hentries, hrest⟩ := hrest.bind
  obtain rfl : es = entries := Except.ok.inj hentries.outcome
  obtain ⟨summary, hpaths, -⟩ := hrest.bind
  cases hop with
  | @keyed items item e shared node key hitems he hitem hshared hnode hverb =>
    obtain ⟨head, -, hpaths⟩ := hpaths.bind
    obtain ⟨_, -, hpaths⟩ := hpaths.bind
    obtain ⟨count, -, hpaths⟩ := hpaths.bind
    obtain ⟨_, -, hpaths⟩ := hpaths.bind
    obtain ⟨items', hitems', hpaths⟩ := hpaths.bind
    obtain rfl : items = items' := Except.ok.inj (hitems.symm.trans hitems'.outcome)
    obtain ⟨roster, hroster, -⟩ := hpaths.bind
    obtain ⟨before, after, hturn⟩ := hroster.foldlM he
    obtain ⟨path, value⟩ := e
    obtain ⟨before, after, hoperation⟩ := passes_of_pathsItem hturn hitem hshared hnode hverb
    exact passes_of_pathsOperation hoperation

end Decoding

end ApiOutline
