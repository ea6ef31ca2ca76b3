/-
Names that are taken, in whatever holds them.

Names are looked for in collections, as elements, and in texts, of which every part counts
(`Among`). A name that is found gets numbers behind it, one after the other, until one of the
numbered names is not found. This search has no bound of its own (`Search`), and that it ends is
the work of this file. It does because what holds the names is finite: a collection has no more
names than elements and a text of `n` characters no more than `(n + 1) ^ 2` parts
(`exists_names`), while the numbered names are all different.

`exists_freeValue` is the result. It says more of a collection than that some number is free: the
number that is given is at most one more than there are elements, and elements that are the same
count as one (`distinct`).
-/
import ApiOutline.Proofs.Name.Free
import ApiOutline.Proofs.Value.Entries
import Mathlib.Data.List.Infix
import Mathlib.Order.Bounds.Defs

set_option autoImplicit false

namespace ApiOutline

/-! ## The parts of a text -/

namespace Text

/-- The parts of a text: the beginnings of its ends. -/
def partsOf (cs : List Char) : List (List Char) :=
  cs.tails.flatMap List.inits

/-- They are the parts in the usual sense: what stands somewhere in the text without a break. -/
theorem mem_partsOf {part cs : List Char} : part ∈ partsOf cs ↔ part <:+: cs := by
  rw [partsOf, List.mem_flatMap, List.infix_iff_prefix_suffix]
  simp only [List.mem_tails, List.mem_inits, and_comm]

/-- **A text has no more parts than the square of its length and one.** Each character more adds
the beginnings of the longer text. -/
theorem length_partsOf_le (cs : List Char) :
    (partsOf cs).length ≤ (cs.length + 1) * (cs.length + 1) := by
  induction cs with
  | nil => exact Nat.le_refl 1
  | cons c rest ih =>
    -- the parts that begin at the front, and those of the rest
    have hcons : partsOf (c :: rest) = (c :: rest).inits ++ partsOf rest := by
      rw [partsOf, List.tails_cons, List.flatMap_cons]
      rfl
    rw [hcons, List.length_append, List.length_inits, List.length_cons]
    calc rest.length + 1 + 1 + (partsOf rest).length
        ≤ rest.length + 1 + 1 + (rest.length + 1) * (rest.length + 1) := Nat.add_le_add_left ih _
      _ ≤ (rest.length + 1 + 1) * (rest.length + 1 + 1) := by
        rw [Nat.succ_mul_succ (rest.length + 1) (rest.length + 1)]
        omega

end Text

/-! ## Elements without repetitions -/

namespace Value

/-- The elements of a collection, of those that are the same only the first. -/
def distinct (xs : List Value) : List Value :=
  xs.eraseDupsBy same

/-- No text is lost with the repetitions. What is taken out equals an element that stays, and what
equals a text is that text. -/
theorem str_mem_distinct {xs : List Value} {name : String} (h : .str name ∈ xs) :
    .str name ∈ distinct xs := by
  -- the recursion goes on with what a filter leaves, so the induction is on the length
  induction hn : xs.length using Nat.strongRecOn generalizing xs with
  | ind n ih =>
    cases xs with
    | nil => exact absurd h List.not_mem_nil
    | cons x rest =>
      rw [distinct, List.eraseDupsBy_cons]
      by_cases hx : x = .str name
      · rw [hx]
        exact List.mem_cons_self
      · have hrest : .str name ∈ rest :=
          (List.mem_cons.1 h).resolve_left fun heq => hx heq.symm
        have hkept : .str name ∈ rest.filter fun b => b.same x = false := by
          refine List.mem_filter.2 ⟨hrest, ?_⟩
          rw [decide_eq_true_iff, ← Bool.not_eq_true, str_same_iff]
          exact hx
        have hlt : (rest.filter fun b => b.same x = false).length < n := by
          rw [← hn, List.length_cons]
          exact Nat.lt_succ_of_le (List.length_filter_le _ _)
        exact List.mem_cons_of_mem x (ih _ hlt hkept rfl)

end Value

namespace Name

/-! ## Where names are looked for -/

/-- The elements of a collection. A text is none: its parts count, and not only its characters. -/
def collected? : Value → Option (List Value)
  | .list xs | .tuple xs => some xs
  | .set ms => some (ms.map .scalar)
  | .object es => some (es.map fun e => .scalar e.1)
  | _ => none

/-- A collection is a list, a row, a set or an object, and the elements of an object are its keys.
-/
theorem collected?_eq_some_iff {taken : Value} {xs : List Value} :
    collected? taken = some xs ↔
      taken = .list xs ∨ taken = .tuple xs ∨ (∃ ms, taken = .set ms ∧ xs = ms.map .scalar) ∨
        ∃ es, taken = .object es ∧ xs = es.map fun e => .scalar e.1 := by
  cases taken <;> simp [collected?, eq_comm]

/-- A collection or a text. -/
def HoldsNames (taken : Value) : Prop :=
  (∃ xs, collected? taken = some xs) ∨ ∃ s, taken = .str s

/-- A name is among the elements of a collection, or it is a part of a text. -/
inductive Among : Value → String → Prop
  | element {taken : Value} {xs : List Value} {name : String} (hxs : collected? taken = some xs)
      (hmem : .str name ∈ xs) : Among taken name
  | part {s name : String} (hpart : name.toList <:+: s.toList) : Among (.str s) name

/-- In a collection a name is looked for among the elements, where it has to be one by itself. -/
theorem among_collection_iff {taken : Value} {xs : List Value} {name : String}
    (h : collected? taken = some xs) : Among taken name ↔ .str name ∈ xs := by
  constructor
  · rintro (⟨hxs, hmem⟩ | ⟨hpart⟩)
    · rw [Option.some.inj (h.symm.trans hxs)]
      exact hmem
    · exact nomatch h
  · exact .element h

/-- In a text it may stand anywhere. -/
theorem among_text_iff {s name : String} : Among (.str s) name ↔ name.toList <:+: s.toList := by
  constructor
  · rintro (⟨hxs, hmem⟩ | ⟨hpart⟩)
    · exact nomatch hxs
    · exact hpart
  · exact .part

/-- In a collection a name is looked for element by element. -/
theorem isTaken_collection {taken : Value} {xs : List Value} (h : collected? taken = some xs)
    (name : String) :
    isTaken taken (.str name) = .ok (xs.any fun x => x.same (.str name)) := by
  -- the four kinds of collections answer in the same way
  obtain rfl | rfl | ⟨ms, rfl, rfl⟩ | ⟨es, rfl, rfl⟩ := collected?_eq_some_iff.1 h
  · rfl
  · rfl
  · rw [isTaken, List.any_map]
    simp only [Function.comp_def, Value.same]
  · rw [isTaken, Value.isSome_lookup_str, List.any_map]
    simp only [Function.comp_def, Value.same]

/-- A collection or a text tells of every name whether it is taken. -/
theorem isTaken_eq_ok {taken : Value} (h : HoldsNames taken) (name : String) :
    isTaken taken (.str name) = .ok (isTakenText taken name) := by
  rcases h with ⟨xs, hxs⟩ | ⟨s, rfl⟩
  · rw [isTakenText, isTaken_collection hxs]
  · rfl

/-- **The search asks whether a name is there, and is told the truth.** In a collection elements
are compared by worth, which for a text means being equal. -/
theorem isTakenText_iff {taken : Value} (h : HoldsNames taken) {name : String} :
    isTakenText taken name = true ↔ Among taken name := by
  rcases h with ⟨xs, hxs⟩ | ⟨s, rfl⟩
  · rw [isTakenText, isTaken_collection hxs, among_collection_iff hxs]
    exact Value.any_same_str_iff
  · rw [among_text_iff]
    exact Text.occursIn_iff

/-- The same for a name that is not there. -/
theorem isTakenText_eq_false_iff {taken : Value} (h : HoldsNames taken) {name : String} :
    isTakenText taken name = false ↔ ¬ Among taken name := by
  rw [← isTakenText_iff h, Bool.not_eq_true]

/-! ## How many names can be taken -/

/-- The bound for a collection is the number of its elements. -/
theorem takenBound_collection {taken : Value} {xs : List Value} (h : collected? taken = some xs) :
    takenBound taken = xs.length := by
  obtain rfl | rfl | ⟨ms, rfl, rfl⟩ | ⟨es, rfl, rfl⟩ := collected?_eq_some_iff.1 h
  · rfl
  · rfl
  · rw [takenBound, List.length_map]
  · rw [takenBound, List.length_map]

/-- The names in a collection or a text are no more than its bound. -/
theorem exists_names {taken : Value} (h : HoldsNames taken) :
    ∃ names : List String, names.length ≤ takenBound taken ∧ ∀ n, Among taken n → n ∈ names := by
  rcases h with ⟨xs, hxs⟩ | ⟨s, rfl⟩
  · refine ⟨xs.map Value.text, ?_, fun n hn => ?_⟩
    · rw [takenBound_collection hxs, List.length_map]
    · exact List.mem_map.2 ⟨.str n, (among_collection_iff hxs).1 hn, rfl⟩
  · refine ⟨(Text.partsOf s.toList).map String.ofList, ?_, fun n hn => ?_⟩
    · rw [takenBound, List.length_map, ← String.length_toList]
      exact Text.length_partsOf_le s.toList
    · exact List.mem_map.2
        ⟨n.toList, Text.mem_partsOf.2 (among_text_iff.1 hn), String.ofList_toList⟩

/-! ## The search without a bound -/

/-- The search as it goes, from a number to the one that it ends at: a number is passed while the
name with it is taken. -/
inductive Search (taken : Value) (name : String) : (k last : Nat) → Prop
  | stop {k : Nat} (hfree : isTaken taken (.str (numbered name k)) = .ok false) :
      Search taken name k k
  | next {k last : Nat} (htaken : isTaken taken (.str (numbered name k)) = .ok true)
      (hrest : Search taken name (k + 1) last) : Search taken name k last

/-- A search ends at the first number that makes the name free. -/
theorem Search.isLeast {taken : Value} {name : String} {k last : Nat} (h : HoldsNames taken)
    (hsearch : Search taken name k last) :
    IsLeast {j | k ≤ j ∧ ¬ Among taken (numbered name j)} last := by
  induction hsearch with
  | @stop k hfree =>
    rw [isTaken_eq_ok h, Except.ok.injEq, isTakenText_eq_false_iff h] at hfree
    exact ⟨⟨Nat.le_refl k, hfree⟩, fun j hj => hj.1⟩
  | @next k last htaken _ ih =>
    rw [isTaken_eq_ok h, Except.ok.injEq, isTakenText_iff h] at htaken
    refine ⟨⟨Nat.le_of_succ_le ih.1.1, ih.1.2⟩, fun j ⟨hj, hfree⟩ => ih.2 ⟨?_, hfree⟩⟩
    rcases Nat.eq_or_lt_of_le hj with rfl | hlt
    · exact absurd htaken hfree
    · exact hlt

/-- The bounded search goes the same way if it ends at a number that makes the name free. -/
theorem search_leastFree {taken : Value} (h : HoldsNames taken) (name : String) (fuel k : Nat)
    (hfree : isTakenText taken
      (numbered name (leastFree (isTakenText taken) name fuel k)) = false) :
    Search taken name k (leastFree (isTakenText taken) name fuel k) := by
  induction fuel generalizing k with
  | zero => exact .stop (by rw [isTaken_eq_ok h]; exact congrArg _ hfree)
  | succ fuel ih =>
    rw [leastFree] at hfree ⊢
    split
    · next htaken =>
      rw [if_pos htaken] at hfree
      exact .next (by rw [isTaken_eq_ok h, htaken]) (ih (k + 1) hfree)
    · next hstop =>
      exact .stop (by rw [isTaken_eq_ok h, eq_false_of_ne_true hstop])

/-- So the search always ends, and where the bounded one does. -/
theorem search_ends {taken : Value} (h : HoldsNames taken) (name : String) :
    Search taken name 2 (leastFree (isTakenText taken) name (takenBound taken) 2) := by
  obtain ⟨names, hlength, hnames⟩ := exists_names h
  exact search_leastFree h name _ 2 <|
    not_taken_leastFree _ name (fun n hn => hnames n ((isTakenText_iff h).1 hn)) hlength

/-! ## The name that is given -/

/-- A name is always given: by the bounded search, which has room enough in everything that holds
names. -/
theorem freeValue_eq_ok {taken : Value} (h : HoldsNames taken) (name : String) :
    freeValue (.str name) taken =
      .ok (.str (free (isTakenText taken) (takenBound taken) name)) := by
  rw [freeValue, isTaken_eq_ok h, free]
  cases isTakenText taken name with
  | false => rfl
  | true => rfl

/-- What is given among the names of a service is what is given among the members of a set. -/
theorem freeValue_names (names : List String) (name : String) :
    freeValue (.str name) (.set (names.map .str)) = .ok (.str (freeAmong names name)) := by
  have hholds : HoldsNames (.set (names.map .str)) := .inl ⟨_, rfl⟩
  have hcontains : isTakenText (.set (names.map .str)) = names.contains := by
    funext n
    rw [Bool.eq_iff_iff, isTakenText_iff hholds, among_collection_iff rfl, List.contains_iff_mem]
    simp
  rw [freeValue_eq_ok hholds, freeAmong, hcontains, takenBound, List.length_map]

/-- A taken name and its taken numbered forms are among the distinct elements. -/
theorem le_length_distinct {taken : Value} {xs : List Value} {name : String} {k : Nat}
    (hxs : collected? taken = some xs) (hname : Among taken name)
    (hforms : ∀ j, 2 ≤ j → j < k → Among taken (numbered name j)) :
    k ≤ (Value.distinct xs).length + 1 := by
  have hmem : ∀ n, Among taken n → n ∈ (Value.distinct xs).map Value.text := fun n hn =>
    List.mem_map.2 ⟨.str n, Value.str_mem_distinct ((among_collection_iff hxs).1 hn), rfl⟩
  have hlength := le_length_of_forms (hmem name hname) fun j hj hlt => hmem _ (hforms j hj hlt)
  rwa [List.length_map] at hlength

/-- **A name is always given, and it is free.** It is the name itself, if that is not taken.
Otherwise the search ends, and it is the name with the least number, from two on, that makes it
free; in a collection that number is at most one more than the distinct elements are. Among the
names of a service the same name is given. -/
theorem exists_freeValue {taken : Value} (h : HoldsNames taken) (name : String) :
    ∃ unique, freeValue (.str name) taken = .ok (.str unique) ∧ ¬ Among taken unique ∧
      (¬ Among taken name → unique = name) ∧
      (Among taken name → ∃ k, Search taken name 2 k ∧ unique = numbered name k ∧
        IsLeast {j | 2 ≤ j ∧ ¬ Among taken (numbered name j)} k ∧
        ∀ xs, collected? taken = some xs → k ≤ (Value.distinct xs).length + 1) ∧
      ∀ names, taken = .set (names.map .str) → unique = freeAmong names name := by
  have hvalue := freeValue_eq_ok h name
  have hends := search_ends h name
  have hleast := hends.isLeast h
  -- free, unchanged if it was free, and otherwise found by the search at its least number
  refine ⟨_, hvalue, ?_, fun hname => ?_, fun hname => ⟨_, hends, ?_, hleast, ?_⟩, ?_⟩
  · rw [free]
    split
    · exact hleast.1.2
    · next hfree => exact mt (isTakenText_iff h).2 hfree
  · rw [free, if_neg (mt (isTakenText_iff h).1 hname)]
  · rw [free, if_pos ((isTakenText_iff h).2 hname)]
  · intro xs hxs
    refine le_length_distinct hxs hname fun j hj hlt => ?_
    by_contra hfree
    exact Nat.not_le.2 hlt (hleast.2 ⟨hj, hfree⟩)
  · rintro names rfl
    have hsame := hvalue.symm.trans (freeValue_names names name)
    rwa [Except.ok.injEq, Value.scalar.injEq, Scalar.str.injEq] at hsame

/-- Of a text every part counts. -/
example : freeValue (.str "get") (.str "get3get2") = .ok (.str "get4") := by rfl

/-- Two names, one of them twice. -/
def shelf : List Value :=
  [.str "get", .str "get2", .str "get"]

/-- Of two names in a list, one of them twice, the third number is free, which is the largest that
the bound allows. -/
theorem exists_freeValue_shelf :
    HoldsNames (.list shelf) ∧ freeValue (.str "get") (.list shelf) = .ok (.str "get3") ∧
      ¬ Among (.list shelf) "get3" ∧ Among (.list shelf) "get" ∧ Search (.list shelf) "get" 2 3 ∧
      IsLeast {j | 2 ≤ j ∧ ¬ Among (.list shelf) (numbered "get" j)} 3 ∧
      (Value.distinct shelf).length = 2 ∧ 3 ≤ 2 + 1 := by
  have hholds : HoldsNames (.list shelf) := .inl ⟨shelf, rfl⟩
  have hvalue : freeValue (.str "get") (.list shelf) = .ok (.str "get3") := by rfl
  have hname : Among (.list shelf) "get" := .element rfl List.mem_cons_self
  have hdistinct : (Value.distinct shelf).length = 2 := by rfl
  obtain ⟨unique, hunique, hfree, -, hsearch, -⟩ := exists_freeValue hholds "get"
  obtain rfl : unique = "get3" := by
    have hsame := hunique.symm.trans hvalue
    rwa [Except.ok.injEq, Value.scalar.injEq, Scalar.str.injEq] at hsame
  obtain ⟨k, hends, hk, hleast, hbound⟩ := hsearch hname
  obtain rfl : k = 3 := numbered_injective "get" (hk.symm.trans (by decide))
  have hlength := hbound shelf rfl
  rw [hdistinct] at hlength
  exact ⟨hholds, hvalue, hfree, hname, hends, hleast, hdistinct, hlength⟩

end Name

end ApiOutline
