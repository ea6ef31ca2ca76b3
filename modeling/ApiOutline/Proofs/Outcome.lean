/-
What a run comes to, apart from what it tells on the way.

A run is a pair of notices and an outcome, and most of what is said about decoding is said about
the outcome alone. `Trace.outcome` takes a sequence of runs to the sequence of their outcomes, so
every statement about runs becomes one about `Except`, where a success can be traced back through
each step. The simp lemmas of the first section carry a run across.

The second section is about loops. The decoders walk through a document and fold over what they
meet, level inside level; a fold inside a fold is one fold over the collected pieces
(`foldlM_collect`), and a fold that succeeds has collected all of them (`collect_of_foldlM`).

The third is about two computations that do the same on data of different form. They go together
if every step does, down to the failure (`Both`).
-/
import ApiOutline.Trace
import Mathlib.Data.List.Forall2

set_option autoImplicit false

namespace ApiOutline

/-! ## Outcomes of runs -/

namespace Trace

variable {α β : Type}

@[simp] theorem outcome_pure (a : α) : (pure a : Trace α).outcome = .ok a := rfl

@[simp] theorem outcome_liftM (r : Except Fault α) : (liftM r : Trace α).outcome = r := rfl

@[simp] theorem outcome_lift (r : Except Fault α) : (lift r).outcome = r := rfl

@[simp] theorem outcome_tell (n : Notice) : (tell n).outcome = .ok () := rfl

@[simp] theorem outcome_fail (f : Fault) : (fail f : Trace α).outcome = .error f := rfl

/-- The outcome of a sequence is the sequence of the outcomes. -/
@[simp] theorem outcome_bind (x : Trace α) (f : α → Trace β) :
    (x >>= f).outcome = x.outcome >>= fun a => (f a).outcome := by
  rw [bind_def, andThen]
  -- the second run is begun only after a success of the first
  cases h : x.outcome with
  | error e => rfl
  | ok a => rfl

/-- The outcome of a fold is the fold of the outcomes, so a fold of runs can be followed like any
other. -/
@[simp] theorem outcome_foldlM (f : β → α → Trace β) (b : β) (xs : List α) :
    (xs.foldlM f b).outcome = xs.foldlM (fun b a => (f b a).outcome) b := by
  induction xs generalizing b with
  | nil => rfl
  | cons x xs ih =>
    rw [List.foldlM_cons, List.foldlM_cons, outcome_bind]
    simp only [ih]

/-- The outcome of a list of runs is the list of their outcomes, or the first failure among them.
-/
@[simp] theorem outcome_mapM (f : α → Trace β) (xs : List α) :
    (xs.mapM f).outcome = xs.mapM fun a => (f a).outcome := by
  induction xs with
  | nil => rfl
  | cons x xs ih =>
    rw [List.mapM_cons, List.mapM_cons, outcome_bind]
    simp only [outcome_bind, outcome_pure, ih]
    rfl

/-- A computation that tells nothing can be changed before or after it is taken for a run. -/
theorem liftM_map (f : α → β) (r : Except Fault α) :
    (liftM (f <$> r) : Trace β) = f <$> (liftM r : Trace α) := by
  cases r with
  | error e => rfl
  | ok a => rfl

/-- Two runs that begin with the same run are the same if they are after its success. -/
theorem bind_congr_ok {x : Trace α} {f g : α → Trace β}
    (h : ∀ a, x.outcome = .ok a → f a = g a) : (x >>= f) = x >>= g := by
  rw [bind_def, bind_def, andThen, andThen]
  cases hx : x.outcome with
  | error e => rfl
  | ok a =>
    dsimp only
    rw [h a hx]

/-- Two folds are the same if they do the same with each element. -/
theorem foldlM_congr {f g : β → α → Trace β} {as : List α} (h : ∀ b, ∀ a ∈ as, f b a = g b a)
    (b : β) : as.foldlM f b = as.foldlM g b := by
  induction as generalizing b with
  | nil => rfl
  | cons a as ih =>
    rw [List.foldlM_cons, List.foldlM_cons, h b a List.mem_cons_self]
    exact bind_congr fun b' => ih (fun b a ha => h b a (List.mem_cons_of_mem _ ha)) b'

/-- Two lists of runs over the same elements are the same if they do the same with each. -/
theorem mapM_congr {f g : α → Trace β} {as : List α} (h : ∀ a ∈ as, f a = g a) :
    as.mapM f = as.mapM g := by
  induction as with
  | nil => rfl
  | cons a as ih =>
    rw [List.mapM_cons, List.mapM_cons, h a List.mem_cons_self,
      ih fun a' ha' => h a' (List.mem_cons_of_mem a ha')]

end Trace

/-! ## Successes, traced back -/

namespace Outcome

variable {ε α β γ : Type}

/-- A sequence succeeds when its first part does and the second does on what the first gave. -/
theorem bind_eq_ok_iff {x : Except ε α} {f : α → Except ε β} {b : β} :
    (x >>= f) = .ok b ↔ ∃ a, x = .ok a ∧ f a = .ok b := by
  cases x with
  | error e => exact ⟨fun h => (nomatch h), fun ⟨_, h, _⟩ => (nomatch h)⟩
  | ok a => exact ⟨fun h => ⟨a, rfl, h⟩, fun ⟨_, h, hf⟩ => by cases h; exact hf⟩

/-- A result that is changed afterwards comes from a result, as a failure stays one. -/
theorem map_eq_ok_iff {x : Except ε α} {f : α → β} {b : β} :
    x.map f = .ok b ↔ ∃ a, x = .ok a ∧ f a = b := by
  cases x with
  | error e => exact ⟨fun h => (nomatch h), fun ⟨_, h, _⟩ => (nomatch h)⟩
  | ok a =>
    refine ⟨fun h => ⟨a, rfl, Except.ok.inj h⟩, ?_⟩
    rintro ⟨_, h, rfl⟩
    cases h
    rfl

/-- What is left of a success when failures are forgotten is its result. -/
theorem eq_ok_of_toOption {x : Except ε α} {a : α} (h : x.toOption = some a) : x = .ok a := by
  cases x with
  | error e => exact nomatch h
  | ok b => exact congrArg Except.ok (Option.some.inj h)

/-- What can be read off a success shows that there is one. -/
theorem exists_of_toOption_map {x : Except ε α} {f : α → β} {b : β}
    (h : x.toOption.map f = some b) : ∃ a, x = .ok a ∧ f a = b := by
  obtain ⟨a, ha, hb⟩ := Option.map_eq_some_iff.1 h
  exact ⟨a, eq_ok_of_toOption ha, hb⟩

/-- A computation that is known not to fail has a result. -/
theorem exists_of_isOk {x : Except ε α} (h : x.isOk = true) : ∃ a, x = .ok a := by
  cases x with
  | error e => exact nomatch h
  | ok a => exact ⟨a, rfl⟩

/-- Renaming failures makes no success of them. -/
theorem mapError_eq_ok {ε' : Type} {x : Except ε α} {f : ε → ε'} {a : α}
    (h : x.mapError f = .ok a) : x = .ok a := by
  cases x with
  | error e => exact nomatch h
  | ok b => exact congrArg Except.ok (Except.ok.inj h)

theorem ok_bind (a : α) (f : α → Except ε β) : (Except.ok a >>= f) = f a := rfl

/-- Changing a result before it is handed on is part of what it is handed to. -/
theorem map_bind (x : Except ε α) (f : α → β) (g : β → Except ε γ) :
    (x.map f >>= g) = x >>= fun a => g (f a) := by
  cases x with
  | error e => rfl
  | ok a => rfl

/-- What is done with the result of a sequence is done with that of its last step. -/
theorem bind_map (x : Except ε α) (f : α → Except ε β) (g : β → γ) :
    (x >>= f).map g = x >>= fun a => (f a).map g := by
  cases x with
  | error e => rfl
  | ok a => rfl

theorem mapM_nil_eq_ok_iff {f : α → Except ε β} {bs : List β} :
    ([] : List α).mapM f = .ok bs ↔ bs = [] := by
  rw [List.mapM_nil]
  exact ⟨fun h => (Except.ok.inj h).symm, fun h => by rw [h]; rfl⟩

/-- A list is mapped with success when its first element is and the rest is, in this order. -/
theorem mapM_cons_eq_ok_iff {f : α → Except ε β} {a : α} {as : List α} {bs : List β} :
    (a :: as).mapM f = .ok bs ↔
      ∃ b rest, f a = .ok b ∧ as.mapM f = .ok rest ∧ bs = b :: rest := by
  rw [List.mapM_cons]
  simp only [bind_eq_ok_iff]
  constructor
  · rintro ⟨b, hb, rest, hrest, h⟩
    exact ⟨b, rest, hb, hrest, (Except.ok.inj h).symm⟩
  · rintro ⟨b, rest, hb, hrest, rfl⟩
    exact ⟨b, hb, rest, hrest, rfl⟩

/-- A list is mapped with success when each of its elements is. -/
theorem mapM_eq_ok_iff {f : α → Except ε β} {as : List α} {bs : List β} :
    as.mapM f = .ok bs ↔ List.Forall₂ (fun a b => f a = .ok b) as bs := by
  induction as generalizing bs with
  | nil => rw [mapM_nil_eq_ok_iff, List.forall₂_nil_left_iff]
  | cons a as ih =>
    rw [mapM_cons_eq_ok_iff, List.forall₂_cons_left_iff]
    constructor
    · rintro ⟨b, rest, hb, hrest, rfl⟩
      exact ⟨b, rest, hb, ih.1 hrest, rfl⟩
    · rintro ⟨b, rest, hb, hrest, rfl⟩
      exact ⟨b, rest, hb, ih.2 hrest, rfl⟩

/-- If each element can be mapped with success, so can the list. -/
theorem exists_mapM {f : α → Except ε β} {as : List α} (h : ∀ a ∈ as, ∃ b, f a = .ok b) :
    ∃ bs, as.mapM f = .ok bs := by
  induction as with
  | nil => exact ⟨[], rfl⟩
  | cons a as ih =>
    obtain ⟨b, hb⟩ := h a List.mem_cons_self
    obtain ⟨bs, hbs⟩ := ih fun a' ha' => h a' (List.mem_cons_of_mem a ha')
    exact ⟨b :: bs, mapM_cons_eq_ok_iff.2 ⟨b, bs, hb, hbs, rfl⟩⟩

/-- A member of one of two lists that go together has a partner in the other. -/
theorem exists_of_forall₂ {R : α → β → Prop} {as : List α} {bs : List β}
    (h : List.Forall₂ R as bs) {a : α} (ha : a ∈ as) : ∃ b ∈ bs, R a b := by
  induction h with
  | nil => exact absurd ha List.not_mem_nil
  | @cons a' b as bs hab _ ih =>
    rcases List.mem_cons.1 ha with rfl | ha
    · exact ⟨b, List.mem_cons_self, hab⟩
    · obtain ⟨b', hb', hR⟩ := ih ha
      exact ⟨b', List.mem_cons_of_mem b hb', hR⟩

/-- The same from the other list. -/
theorem exists_of_forall₂_right {R : α → β → Prop} {as : List α} {bs : List β}
    (h : List.Forall₂ R as bs) {b : β} (hb : b ∈ bs) : ∃ a ∈ as, R a b := by
  have hflip : List.Forall₂ (flip R) bs as := h.flip
  exact exists_of_forall₂ hflip hb

/-- What is related to something that is related to a third thing, element by element. -/
theorem forall₂_trans {R : α → β → Prop} {S : β → γ → Prop} {as : List α} {bs : List β}
    {cs : List γ} (h : List.Forall₂ R as bs) (h' : List.Forall₂ S bs cs) :
    List.Forall₂ (fun a c => ∃ b, R a b ∧ S b c) as cs := by
  induction h generalizing cs with
  | nil =>
    cases h'
    exact .nil
  | cons hab _ ih =>
    cases h' with
    | cons hbc hrest => exact .cons ⟨_, hab, hbc⟩ (ih hrest)

/-- Two lists that go together with the same list can be paired. -/
theorem exists_pairs_of_both {R : α → β → Prop} {S : α → γ → Prop} {as : List α}
    {bs : List β} {cs : List γ} (h : List.Forall₂ R as bs) (h' : List.Forall₂ S as cs) :
    ∃ pairs : List (β × γ), bs = pairs.map (·.1) ∧ cs = pairs.map (·.2) ∧
      List.Forall₂ (fun a pair => R a pair.1 ∧ S a pair.2) as pairs := by
  -- the two lists are as long as the one they go with, and are taken apart together
  induction h generalizing cs with
  | nil =>
    cases h'
    exact ⟨[], rfl, rfl, .nil⟩
  | @cons a b _ _ hab _ ih =>
    cases h' with
    | @cons _ c _ _ hac hrest =>
      obtain ⟨pairs, rfl, rfl, hpairs⟩ := ih hrest
      exact ⟨(b, c) :: pairs, rfl, rfl, .cons ⟨hab, hac⟩ hpairs⟩

/-- What elements leave, and what is made of it, element by element. -/
theorem filterMap_of_forall₂ {R : β → γ → Prop} {f : α → Except ε (Option β)} {as : List α}
    {cs : List (Option γ)}
    (h : List.Forall₂ (fun a c => ∃ b, f a = .ok b ∧ Option.Rel R b c) as cs) :
    ∃ bs, as.mapM f = .ok bs ∧ List.Forall₂ R (bs.filterMap id) (cs.filterMap id) := by
  induction h with
  | nil => exact ⟨[], rfl, .nil⟩
  | cons hac _ ih =>
    obtain ⟨b, hb, hrel⟩ := hac
    obtain ⟨bs, hbs, hrest⟩ := ih
    refine ⟨b :: bs, mapM_cons_eq_ok_iff.2 ⟨b, bs, hb, hbs, rfl⟩, ?_⟩
    cases hrel with
    | none => exact hrest
    | some hbc => exact .cons hbc hrest

/-! ## Folds over what is collected -/

/-- What all elements of a list contribute, one after the other. -/
def collect (g : α → Except ε (List γ)) (xs : List α) : Except ε (List γ) :=
  (xs.mapM g).map List.flatten

theorem collect_nil (g : α → Except ε (List γ)) : collect g [] = .ok [] := rfl

/-- What a list contributes is what its first element does, with what the rest does behind it. -/
theorem collect_cons_eq_ok_iff {g : α → Except ε (List γ)} {x : α} {xs : List α} {cs : List γ} :
    collect g (x :: xs) = .ok cs ↔
      ∃ c rest, g x = .ok c ∧ collect g xs = .ok rest ∧ cs = c ++ rest := by
  simp only [collect, map_eq_ok_iff, mapM_cons_eq_ok_iff]
  constructor
  · rintro ⟨_, ⟨c, rest, hc, hrest, rfl⟩, rfl⟩
    exact ⟨c, rest.flatten, hc, ⟨rest, hrest, rfl⟩, rfl⟩
  · rintro ⟨c, _, hc, ⟨rest, hrest, rfl⟩, rfl⟩
    exact ⟨c :: rest, ⟨c, rest, hc, hrest, rfl⟩, rfl⟩

/-- Where every element contributes something, all of it is collected. -/
theorem collect_eq_ok {g : α → Except ε (List γ)} {k : α → List γ} {xs : List α}
    (h : ∀ x ∈ xs, g x = .ok (k x)) : collect g xs = .ok (xs.flatMap k) := by
  induction xs with
  | nil => rfl
  | cons x xs ih =>
    exact collect_cons_eq_ok_iff.2
      ⟨_, _, h x List.mem_cons_self, ih fun y hy => h y (List.mem_cons_of_mem x hy), rfl⟩

/-- What two lists contribute, one behind the other. If one of them fails, so does the whole. The
induction is on the first one. -/
theorem collect_append_eq_ok_iff {g : α → Except ε (List γ)} {xs ys : List α} {cs : List γ} :
    collect g (xs ++ ys) = .ok cs ↔
      ∃ as bs, collect g xs = .ok as ∧ collect g ys = .ok bs ∧ cs = as ++ bs := by
  induction xs generalizing cs with
  | nil =>
    rw [List.nil_append, collect_nil]
    constructor
    · intro h
      exact ⟨[], cs, rfl, h, rfl⟩
    · rintro ⟨as, bs, has, hbs, rfl⟩
      obtain rfl := Except.ok.inj has
      exact hbs
  | cons x xs ih =>
    rw [List.cons_append, collect_cons_eq_ok_iff]
    constructor
    · rintro ⟨c, rest, hc, hrest, rfl⟩
      obtain ⟨as, bs, has, hbs, rfl⟩ := ih.1 hrest
      exact ⟨c ++ as, bs, collect_cons_eq_ok_iff.2 ⟨c, as, hc, has, rfl⟩, hbs,
        (List.append_assoc c as bs).symm⟩
    · rintro ⟨_, bs, hfirst, hbs, rfl⟩
      obtain ⟨c, as, hc, has, rfl⟩ := collect_cons_eq_ok_iff.1 hfirst
      exact ⟨c, as ++ bs, hc, ih.2 ⟨as, bs, has, hbs, rfl⟩, List.append_assoc c as bs⟩

/-- What was collected came from one of the elements, and that element contributed it by itself.
-/
theorem exists_of_mem_collect {g : α → Except ε (List γ)} {xs : List α} {cs : List γ}
    (h : collect g xs = .ok cs) {c : γ} (hc : c ∈ cs) : ∃ x ∈ xs, ∃ ds, g x = .ok ds ∧ c ∈ ds := by
  induction xs generalizing cs with
  | nil =>
    rw [collect_nil] at h
    rw [← Except.ok.inj h] at hc
    exact absurd hc List.not_mem_nil
  | cons x xs ih =>
    obtain ⟨ds, rest, hds, hrest, rfl⟩ := collect_cons_eq_ok_iff.1 h
    rcases List.mem_append.1 hc with hc | hc
    · exact ⟨x, List.mem_cons_self, ds, hds, hc⟩
    · obtain ⟨y, hy, hsource⟩ := ih hrest hc
      exact ⟨y, List.mem_cons_of_mem x hy, hsource⟩

/-- What was collected is related, piece by piece, to what the elements are related to. -/
theorem forall₂_of_collect {δ : Type} {R : γ → δ → Prop} {g : α → Except ε (List γ)}
    {k : α → List δ} {xs : List α} {cs : List γ} (h : collect g xs = .ok cs)
    (hk : ∀ x ∈ xs, ∀ ds, g x = .ok ds → List.Forall₂ R ds (k x)) :
    List.Forall₂ R cs (xs.flatMap k) := by
  induction xs generalizing cs with
  | nil =>
    rw [← Except.ok.inj h]
    exact .nil
  | cons x xs ih =>
    obtain ⟨ds, rest, hds, hrest, rfl⟩ := collect_cons_eq_ok_iff.1 h
    rw [List.flatMap_cons]
    exact List.rel_append (hk x List.mem_cons_self ds hds)
      (ih hrest fun y hy => hk y (List.mem_cons_of_mem x hy))

/-- What changed elements contribute is collected from the elements by changing them first. -/
theorem collect_map {δ : Type} (t : δ → α) (g : α → Except ε (List γ)) (xs : List δ) :
    collect g (xs.map t) = collect (fun x => g (t x)) xs :=
  congrArg (Except.map List.flatten) List.mapM_map

variable {f : β → α → Except ε β} {g : α → Except ε (List γ)} {h : β → γ → Except ε β}

/-- A fold whose every step is itself a fold, over what the element contributes, is one fold over
all contributions. -/
theorem foldlM_collect (step : ∀ b x cs, g x = .ok cs → f b x = cs.foldlM h b) {xs : List α}
    {cs : List γ} (hcs : collect g xs = .ok cs) (b : β) : xs.foldlM f b = cs.foldlM h b := by
  -- by induction on the outer list: its first element is a fold over what it contributes, and the
  -- rest goes on from there
  induction xs generalizing cs b with
  | nil =>
    rw [collect_nil] at hcs
    rw [← Except.ok.inj hcs]
    rfl
  | cons x xs ih =>
    obtain ⟨c, rest, hc, hrest, rfl⟩ := collect_cons_eq_ok_iff.1 hcs
    rw [List.foldlM_cons, List.foldlM_append, step b x c hc]
    simp only [ih hrest]

/-- Where a step succeeds only if its element contributes something, a fold succeeds only if
everything can be collected. -/
theorem collect_of_foldlM (step : ∀ b x b', f b x = .ok b' → ∃ cs, g x = .ok cs) {xs : List α}
    {b b' : β} (hf : xs.foldlM f b = .ok b') : ∃ cs, collect g xs = .ok cs := by
  induction xs generalizing b with
  | nil => exact ⟨[], collect_nil g⟩
  | cons x xs ih =>
    rw [List.foldlM_cons] at hf
    obtain ⟨b₁, hx, hxs⟩ := bind_eq_ok_iff.1 hf
    obtain ⟨c, hc⟩ := step b x b₁ hx
    obtain ⟨rest, hrest⟩ := ih hxs
    exact ⟨c ++ rest, collect_cons_eq_ok_iff.2 ⟨c, rest, hc, hrest, rfl⟩⟩

/-- What every step of a fold preserves, the fold preserves. Only steps at elements of the list
that succeed have to be looked at. -/
theorem foldlM_invariant {P : β → Prop} {xs : List α}
    (hstep : ∀ x ∈ xs, ∀ b b', P b → f b x = .ok b' → P b') {b b' : β} (hb : P b)
    (hf : xs.foldlM f b = .ok b') : P b' := by
  induction xs generalizing b with
  | nil =>
    rw [← Except.ok.inj hf]
    exact hb
  | cons x xs ih =>
    rw [List.foldlM_cons] at hf
    obtain ⟨b₁, hx, hxs⟩ := bind_eq_ok_iff.1 hf
    -- the first step keeps it, and the rest begins with what the first step left
    have hb₁ : P b₁ := hstep x List.mem_cons_self b b₁ hb hx
    exact ih (fun y hy => hstep y (List.mem_cons_of_mem x hy)) hb₁ hxs

/-- Elements that a fold passes over can be left out. -/
theorem foldlM_filter {p : α → Bool} (hpass : ∀ b x, p x = false → f b x = .ok b) (xs : List α)
    (b : β) : (xs.filter p).foldlM f b = xs.foldlM f b := by
  induction xs generalizing b with
  | nil => rfl
  | cons x xs ih =>
    rw [List.filter_cons, List.foldlM_cons]
    by_cases hx : p x = true
    · rw [if_pos hx, List.foldlM_cons]
      simp only [ih]
    · rw [if_neg hx, hpass b x (Bool.not_eq_true _ ▸ hx), ok_bind, ih]

/-! ## Two computations side by side -/

/-- Two outcomes that go together: the same failure, or results that are related. -/
def Both (R : α → β → Prop) : Except ε α → Except ε β → Prop
  | .ok a, .ok b => R a b
  | .error e, .error e' => e = e'
  | _, _ => False

/-- Two sequences go together, step by step. Either both first steps fail, and then with the same
fault, or their results are related and the second steps go together for these. -/
theorem Both.bind {α' β' : Type} {R : α → β → Prop} {S : α' → β' → Prop} {x : Except ε α}
    {y : Except ε β} {f : α → Except ε α'} {g : β → Except ε β'} (h : Both R x y)
    (hfg : ∀ a b, R a b → Both S (f a) (g b)) : Both S (x >>= f) (y >>= g) := by
  -- the four cases of two outcomes, of which two are excluded by their going together
  cases x with
  | error e =>
    cases y with
    | error e' => exact h
    | ok b => exact h.elim
  | ok a =>
    cases y with
    | error e' => exact h.elim
    | ok b => exact hfg a b h

/-- Two sequences that begin with the same step go together if they do from there on. -/
theorem both_bind {α' β' : Type} {S : α' → β' → Prop} (x : Except ε α) {f : α → Except ε α'}
    {g : α → Except ε β'} (h : ∀ a, Both S (f a) (g a)) : Both S (x >>= f) (x >>= g) := by
  cases x with
  | error e => exact rfl
  | ok a => exact h a

/-- Two sequences whose first steps go together are the same if they are the same from there on. -/
theorem Both.bind_eq {R : α → β → Prop} {x : Except ε α} {y : Except ε β} {f : α → Except ε γ}
    {g : β → Except ε γ} (h : Both R x y)
    (hfg : ∀ a b, x = .ok a → y = .ok b → R a b → f a = g b) : (x >>= f) = y >>= g := by
  cases x with
  | error e =>
    cases y with
    | error e' => exact congrArg Except.error h
    | ok b => exact h.elim
  | ok a =>
    cases y with
    | error e' => exact h.elim
    | ok b => exact hfg a b rfl rfl h

/-- Two sequences that begin with the same step are the same if they are after its success. -/
theorem bind_congr_ok {x : Except ε α} {f g : α → Except ε β} (h : ∀ a, x = .ok a → f a = g a) :
    (x >>= f) = x >>= g := by
  cases x with
  | error e => rfl
  | ok a => exact h a rfl

/-- Two folds go together if their steps do. -/
theorem both_foldlM {α' β' : Type} {R : α → β → Prop} {S : α' → β' → Prop}
    {f : α → α' → Except ε α} {g : β → β' → Except ε β} {xs : List α'} {ys : List β'}
    (hstep : ∀ a b x y, R a b → S x y → Both R (f a x) (g b y)) (h : List.Forall₂ S xs ys) {a : α}
    {b : β} (hab : R a b) : Both R (xs.foldlM f a) (ys.foldlM g b) := by
  induction h generalizing a b with
  | nil => exact hab
  | cons hxy _ ih =>
    rw [List.foldlM_cons, List.foldlM_cons]
    exact (hstep a b _ _ hab hxy).bind fun _ _ hnext => ih hnext

/-- Two folds over lists that go together are the same if each two elements do the same from
wherever they are reached. -/
theorem foldlM_eq_of_forall₂ {f : β → α → Except ε β} {g : β → γ → Except ε β} {xs : List α}
    {ys : List γ} (h : List.Forall₂ (fun x y => ∀ b, f b x = g b y) xs ys) (b : β) :
    xs.foldlM f b = ys.foldlM g b := by
  induction h generalizing b with
  | nil => rfl
  | cons hxy _ ih =>
    rw [List.foldlM_cons, List.foldlM_cons, hxy]
    simp only [ih]

/-- The same for lists of results. -/
theorem mapM_eq_of_forall₂ {f : α → Except ε β} {g : γ → Except ε β} {xs : List α} {ys : List γ}
    (h : List.Forall₂ (fun x y => f x = g y) xs ys) : xs.mapM f = ys.mapM g := by
  induction h with
  | nil => rfl
  | cons hxy _ ih => rw [List.mapM_cons, List.mapM_cons, hxy, ih]

/-- Where related means obtained by a function, going together means that too. -/
theorem both_map_iff {f : α → β} {x : Except ε α} {y : Except ε β} :
    Both (fun a b => b = f a) x y ↔ y = x.map f := by
  -- a failure is not changed by the function, so the two have to be the same one
  cases x with
  | error e =>
    cases y with
    | error e' => exact ⟨fun h => congrArg Except.error h.symm, fun h => (Except.error.inj h).symm⟩
    | ok b => exact ⟨fun h => h.elim, fun h => (nomatch h)⟩
  | ok a =>
    cases y with
    | error e' => exact ⟨fun h => h.elim, fun h => (nomatch h)⟩
    | ok b => exact ⟨fun h => congrArg Except.ok h, fun h => Except.ok.inj h⟩

/-- Elements that are translated, and results with them, one by one. -/
theorem mapM_map_eq_map {α' β' : Type} {t : α → α'} {r : β → β'} {f : α → Except ε β}
    {g : α' → Except ε β'} {as : List α} (h : ∀ a ∈ as, g (t a) = (f a).map r) :
    (as.map t).mapM g = (as.mapM f).map (List.map r) := by
  induction as with
  | nil => rfl
  | cons a as ih =>
    rw [List.map_cons, List.mapM_cons, List.mapM_cons, h a List.mem_cons_self,
      ih fun b hb => h b (List.mem_cons_of_mem a hb)]
    cases f a with
    | error e => rfl
    | ok b =>
      cases as.mapM f with
      | error e => rfl
      | ok bs => rfl

/-- A fold over translated elements from a translated start, where each step is translated. -/
theorem foldlM_map_eq_map {α' β' : Type} {t : α → α'} {r : β → β'} {f : β → α → Except ε β}
    {g : β' → α' → Except ε β'} {as : List α}
    (h : ∀ b, ∀ a ∈ as, g (r b) (t a) = (f b a).map r) (b : β) :
    (as.map t).foldlM g (r b) = (as.foldlM f b).map r := by
  induction as generalizing b with
  | nil => rfl
  | cons a as ih =>
    rw [List.map_cons, List.foldlM_cons, List.foldlM_cons, h b a List.mem_cons_self, map_bind]
    cases f b a with
    | error e => rfl
    | ok b' => exact ih (fun b a ha => h b a (List.mem_cons_of_mem _ ha)) b'

end Outcome

end ApiOutline
