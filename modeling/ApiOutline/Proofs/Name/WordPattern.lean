/-
The pattern by which words are found.

How long the word at the front of a run is can be told from the shapes there, without trying
anything (`wordLength`). The rule behind it is a pattern with four alternatives that is matched
from left to right: two capitals or more, if a capitalized word or the end comes next; small
letters with digits behind them, and perhaps one capital in front; one capital; digits. The
alternatives are tried in this order, a repetition takes as much as there is, and when what comes
next does not fit, it gives back one shape after the other.

What a pattern does is therefore a list, all that can be left of a run when a match was taken off
its front, in the order in which the ways are tried (`OrderedPattern.rests`). The first entry is
the match. There are six kinds of words at the front of a run (`FirstWord`), and for each of them
the first entry is what is left behind the word (`FirstWord.first?_wordPattern`). So what the
pattern finds in a run, one match after the other, are its words (`found_wordPattern`).
-/
import ApiOutline.Name.Words

set_option autoImplicit false

namespace ApiOutline.Name

/-! ## Patterns that are tried in order -/

/-- A pattern of shapes. What is written first is tried first. -/
inductive OrderedPattern where
  | nothing
  | one (s : Shape)
  /-- As many as there are, or fewer if what comes next does not fit. -/
  | many (s : Shape)
  | seq (a b : OrderedPattern)
  | either (a b : OrderedPattern)
  /-- The pattern comes next, but is no part of the match. -/
  | ahead (a : OrderedPattern)
  | atEnd

namespace OrderedPattern

/-- What is left when shapes `s` are taken off the front: first all of them, then fewer and
fewer. -/
def fewer (s : Shape) : List Shape → List (List Shape)
  | [] => [[]]
  | t :: rest => if t = s then fewer s rest ++ [t :: rest] else [t :: rest]

/-- All that can be left of a list of shapes when a match was taken off its front, in the order in
which the ways to match are tried. -/
def rests : OrderedPattern → List Shape → List (List Shape)
  | .nothing, shapes => [shapes]
  | .one _, [] => []
  | .one s, t :: rest => if t = s then [rest] else []
  | .many s, shapes => fewer s shapes
  | .seq a b, shapes => (a.rests shapes).flatMap b.rests
  | .either a b, shapes => a.rests shapes ++ b.rests shapes
  | .ahead a, shapes => if (a.rests shapes).isEmpty then [] else [shapes]
  | .atEnd, shapes => if shapes.isEmpty then [shapes] else []

/-- What is left behind the match that counts, the first one. -/
def first? (p : OrderedPattern) (shapes : List Shape) : Option (List Shape) :=
  (p.rests shapes).head?

/-- Once or more often. -/
def repeated (s : Shape) : OrderedPattern :=
  .seq (.one s) (.many s)

/-- The matches in a run, one behind the other. Where there is none, or none that takes anything, a
character is passed over. -/
def found (p : OrderedPattern) : List Char → List (List Char)
  | [] => []
  | c :: rest =>
    match p.first? ((c :: rest).map shapeOf) with
    | none => found p rest
    | some behind =>
      let n := rest.length + 1 - behind.length
      if n = 0 then found p rest else (c :: rest).take n :: found p ((c :: rest).drop n)
termination_by cs => cs.length
decreasing_by all_goals simp only [List.length_drop, List.length_cons]; omega

section Rules

variable {a b : OrderedPattern} {shapes left behind : List Shape}

/-- Where the first alternative fits, its match counts and the second is not tried. -/
theorem first?_either_left (h : a.first? shapes = some behind) :
    (either a b).first? shapes = some behind := by
  rw [first?] at h
  rw [first?, rests, List.head?_append, h]
  rfl

/-- Where the first alternative does not fit in any way, the second decides alone. -/
theorem first?_either_right (h : a.rests shapes = []) :
    (either a b).first? shapes = b.first? shapes := by
  rw [first?, rests, h, List.nil_append]
  rfl

/-- What matches first for a sequence is had from the first match of its parts, if the second part
fits behind that. Otherwise the first part gives something back, which is another lemma. -/
theorem first?_seq (ha : a.first? shapes = some left) (hb : b.first? left = some behind) :
    (seq a b).first? shapes = some behind := by
  obtain ⟨others, hothers⟩ := List.head?_eq_some_iff.1 ha
  rw [first?] at hb
  rw [first?, rests, hothers, List.flatMap_cons, List.head?_append, hb]
  rfl

/-- A run of a shape is given back one by one. What is tried first is to take all of it, and the
last way is to take none. -/
theorem fewer_run {s : Shape} {rest : List Shape} (h : rest.head? ≠ some s) (k : Nat) :
    fewer s (List.replicate k s ++ rest) =
      (List.range (k + 1)).map fun j => List.replicate j s ++ rest := by
  -- one shape more is one way more, and it is tried last
  induction k with
  | zero =>
    cases rest with
    | nil => rfl
    | cons t rest =>
      have hne : t ≠ s := fun heq => h (congrArg some heq)
      rw [List.replicate_zero, List.nil_append, fewer, if_neg hne]
      rfl
  | succ k ih =>
    have hfewer : fewer s (List.replicate (k + 1) s ++ rest) =
        fewer s (List.replicate k s ++ rest) ++ [List.replicate (k + 1) s ++ rest] := by
      rw [List.replicate_succ, List.cons_append, fewer, if_pos rfl]
    have hrange : List.range (k + 1 + 1) = List.range (k + 1) ++ [k + 1] := List.range_succ
    rw [hfewer, hrange, List.map_append, ← ih]
    rfl

/-- Repeated as often as it goes, a shape takes all of its run, whatever that leaves. -/
theorem first?_many {s : Shape} {rest : List Shape} (h : rest.head? ≠ some s) (k : Nat) :
    (many s).first? (List.replicate k s ++ rest) = some rest := by
  rw [first?, rests, fewer_run h, List.range_succ_eq_map]
  rfl

/-- So it does where one is asked for at least, if there is one. -/
theorem first?_repeated {s : Shape} {rest : List Shape} (h : rest.head? ≠ some s) (k : Nat) :
    (repeated s).first? (List.replicate (k + 1) s ++ rest) = some rest := by
  have hone : (one s).first? (List.replicate (k + 1) s ++ rest) =
      some (List.replicate k s ++ rest) := by
    rw [List.replicate_succ, List.cons_append, first?, rests, if_pos rfl]
    rfl
  exact first?_seq hone (first?_many h k)

/-- A single shape does not fit where another one stands, or nothing. -/
theorem rests_one_of_ne {s : Shape} (h : shapes.head? ≠ some s) : (one s).rests shapes = [] := by
  cases shapes with
  | nil => rfl
  | cons t rest => exact if_neg fun heq => h (congrArg some heq)

/-- What begins with a shape does not fit if the others do not fit behind it. -/
theorem rests_seq_one_eq_nil {s : Shape} (h : ∀ rest, shapes = s :: rest → b.rests rest = []) :
    (seq (one s) b).rests shapes = [] := by
  cases shapes with
  | nil => rfl
  | cons t rest =>
    by_cases ht : t = s
    · rw [rests, rests, if_pos ht, List.flatMap_singleton]
      exact h rest (by rw [ht])
    · rw [rests, rests, if_neg ht]
      rfl

/-- Neither does what begins with it. -/
theorem rests_seq_one_of_ne {s : Shape} (h : shapes.head? ≠ some s) :
    (seq (one s) b).rests shapes = [] := by
  refine rests_seq_one_eq_nil ?_
  rintro rest rfl
  exact absurd rfl h

end Rules

end OrderedPattern

open OrderedPattern

/-- Small letters with digits behind them. -/
def smallPattern : OrderedPattern :=
  .seq (repeated .small) (.many .digit)

/-- A capital that begins a word of small letters, or the end. -/
def capitalsEnd : OrderedPattern :=
  .either (.seq (.one .capital) smallPattern) .atEnd

/-- Two capitals or more, if their end comes next. -/
def capitalsPattern : OrderedPattern :=
  .seq (.seq (.one .capital) (.seq (.one .capital) (.many .capital))) (.ahead capitalsEnd)

/-- Small letters with digits behind them and perhaps a capital in front. -/
def capitalizedPattern : OrderedPattern :=
  .seq (.either (.one .capital) .nothing) smallPattern

/-- The pattern of a word. -/
def wordPattern : OrderedPattern :=
  .either capitalsPattern
    (.either capitalizedPattern (.either (.one .capital) (repeated .digit)))

/-! ## The word at the front -/

/-- Small letters, then digits, and all of either that there are in front of `rest`. -/
inductive SmallWord : List Shape → List Shape → Prop where
  | intro (k m : Nat) {rest : List Shape} (hdigit : rest.head? ≠ some .digit)
      (hsmall : m = 0 → rest.head? ≠ some .small) :
      SmallWord (List.replicate (k + 1) .small ++ List.replicate m .digit) rest

/-- The word at the front of a run, and what follows it there. -/
inductive FirstWord : List Shape → List Shape → Prop where
  | digits (k : Nat) {rest : List Shape} (hdigit : rest.head? ≠ some .digit) :
      FirstWord (List.replicate (k + 1) .digit) rest
  | small {word rest : List Shape} (h : SmallWord word rest) : FirstWord word rest
  | capitalized {word rest : List Shape} (h : SmallWord word rest) :
      FirstWord (.capital :: word) rest
  | capitals (k : Nat) : FirstWord (List.replicate (k + 1) .capital) []
  | capitalsBefore (k : Nat) (rest : List Shape) :
      FirstWord (List.replicate (k + 1) .capital) (.capital :: .small :: rest)
  | capital (k : Nat) (rest : List Shape) :
      FirstWord [.capital] (List.replicate k .capital ++ .digit :: rest)

/-- A run goes on as long as the shape is the same. -/
theorem runLength_cons_self (s : Shape) (rest : List Shape) :
    runLength s (s :: rest) = runLength s rest + 1 := by
  simp only [runLength, List.takeWhile_cons, beq_self_eq_true, if_true, List.length_cons]

theorem runLength_cons_of_ne {s t : Shape} (h : t ≠ s) (rest : List Shape) :
    runLength s (t :: rest) = 0 := by
  have hne : (t == s) = false := beq_eq_false_iff_ne.2 h
  simp only [runLength, List.takeWhile_cons, hne, Bool.false_eq_true, if_false, List.length_nil]

/-- Shapes at the front that are alike, and what follows them. -/
theorem eq_run_append (s : Shape) (shapes : List Shape) :
    shapes = List.replicate (runLength s shapes) s ++ shapes.drop (runLength s shapes) ∧
      (shapes.drop (runLength s shapes)).head? ≠ some s := by
  induction shapes with
  | nil => exact ⟨rfl, fun h => nomatch h⟩
  | cons t rest ih =>
    obtain ⟨hrun, hend⟩ := ih
    by_cases heq : t = s
    · rw [heq, runLength_cons_self, List.drop_succ_cons, List.replicate_succ, List.cons_append]
      exact ⟨congrArg (s :: ·) hrun, hend⟩
    · rw [runLength_cons_of_ne heq]
      exact ⟨rfl, fun h => heq (Option.some.inj h)⟩

/-- A small word is as long as its two runs. -/
theorem exists_smallWord (rest : List Shape) :
    ∃ word behind, Shape.small :: rest = word ++ behind ∧ SmallWord word behind ∧
      tailLength (.small :: rest) = word.length := by
  obtain ⟨hsmall, hbehind⟩ := eq_run_append .small rest
  obtain ⟨hdigits, hend⟩ := eq_run_append .digit (rest.drop (runLength .small rest))
  rw [tailLength, runLength_cons_self, List.drop_succ_cons]
  -- of the two runs only their lengths are needed
  generalize runLength .small rest = k at *
  generalize runLength .digit (rest.drop k) = m at *
  refine ⟨List.replicate (k + 1) .small ++ List.replicate m .digit, (rest.drop k).drop m, ?_,
    .intro k m hend ?_, ?_⟩
  · rw [List.append_assoc, ← hdigits, List.replicate_succ, List.cons_append, ← hsmall]
  · intro hm
    rw [hm]
    exact hbehind
  · rw [List.length_append, List.length_replicate, List.length_replicate]

/-- The last of several capitals, with what follows it. -/
theorem capital_cons_replicate (k : Nat) (rest : List Shape) :
    Shape.capital :: (List.replicate (k + 1) .capital ++ rest) =
      List.replicate (k + 1) .capital ++ .capital :: rest := by
  rw [← List.cons_append, ← List.replicate_succ, List.replicate_succ', List.append_assoc]
  rfl

/-- **There is a word at the front of every run**, and `wordLength` is its length. The first shape
of the run says which kind of word it is. After a capital it also matters what stands behind all
the capitals. -/
theorem exists_firstWord {shapes : List Shape} (h : shapes ≠ []) :
    ∃ word rest, shapes = word ++ rest ∧ FirstWord word rest ∧
      wordLength shapes = word.length := by
  match shapes, h with
  -- three cases by the first shape, as in the definition of the length
  | .digit :: rest, _ =>
    obtain ⟨hdigits, hrest⟩ := eq_run_append .digit rest
    refine ⟨_, _, ?_, .digits (runLength .digit rest) hrest, ?_⟩
    · rw [List.replicate_succ, List.cons_append, ← hdigits]
    · rw [wordLength, List.length_replicate, Nat.add_comm]
  | .small :: rest, _ =>
    obtain ⟨word, behind, hword, hsmall, hlength⟩ := exists_smallWord rest
    exact ⟨word, behind, hword, .small hsmall, hlength⟩
  | .capital :: rest, _ =>
    obtain ⟨hcapitals, hrest⟩ := eq_run_append .capital rest
    simp only [wordLength]
    generalize runLength .capital rest = k at *
    -- what follows the capitals decides how many of them are in the word
    cases hbehind : rest.drop k with
    | nil =>
      rw [hbehind, List.append_nil] at hcapitals
      refine ⟨List.replicate (k + 1) .capital, [], ?_, .capitals k, ?_⟩
      · rw [List.append_nil, List.replicate_succ, ← hcapitals]
      · rw [List.length_replicate, Nat.add_comm]
    | cons t behind =>
      rw [hbehind] at hcapitals hrest
      cases t with
      | capital => exact absurd rfl hrest
      | digit =>
        refine ⟨[.capital], rest, rfl, ?_, rfl⟩
        rw [hcapitals]
        exact .capital k behind
      | small =>
        cases k with
        | zero =>
          obtain ⟨word, others, hword, hsmall, hlength⟩ := exists_smallWord behind
          have hwhole : rest = .small :: behind := hcapitals
          refine ⟨.capital :: word, others, ?_, .capitalized hsmall, ?_⟩
          · rw [hwhole, hword, List.cons_append]
          · rw [hwhole, List.length_cons, ← hlength]
            exact Nat.add_comm 1 _
        | succ k =>
          refine ⟨List.replicate (k + 1) .capital, .capital :: .small :: behind, ?_,
            .capitalsBefore k behind, ?_⟩
          · rw [← capital_cons_replicate, ← hcapitals]
          · rw [List.length_replicate]
            rfl

/-! ## The first match -/

/-- The pattern for small letters fits only where a small letter stands. -/
theorem rests_smallPattern_of_ne {shapes : List Shape} (h : shapes.head? ≠ some .small) :
    smallPattern.rests shapes = [] := by
  have hsmall : (repeated .small).rests shapes = [] := rests_seq_one_of_ne h
  rw [smallPattern, rests, hsmall]
  rfl

/-- A small word begins with a small letter, whatever follows it. -/
theorem SmallWord.head?_eq {word rest : List Shape} (h : SmallWord word rest) :
    (word ++ rest).head? = some .small := by
  obtain ⟨k, m, -, -⟩ := h
  rfl

/-- The pattern for small letters takes a small word to its end: all the letters, and then all the
digits. -/
theorem SmallWord.first?_smallPattern {word rest : List Shape} (h : SmallWord word rest) :
    smallPattern.first? (word ++ rest) = some rest := by
  obtain ⟨k, m, hdigit, hsmall⟩ := h
  rw [List.append_assoc]
  refine first?_seq (first?_repeated ?_ k) (first?_many hdigit m)
  -- behind the small letters there are digits, or what follows the word
  cases m with
  | zero => exact hsmall rfl
  | succ m => exact fun h => nomatch h

/-- Capitals end at the end. -/
theorem rests_capitalsEnd_nil : (ahead capitalsEnd).rests [] = [[]] := rfl

/-- Capitals end before a capital with a small letter behind it. -/
theorem rests_capitalsEnd_capital (rest : List Shape) :
    (ahead capitalsEnd).rests (.capital :: .small :: rest) = [.capital :: .small :: rest] := by
  obtain ⟨word, behind, hword, hsmall, -⟩ := exists_smallWord rest
  have hfirst : capitalsEnd.first? (.capital :: .small :: rest) = some behind := by
    have hone : (one .capital).first? (.capital :: .small :: rest) = some (.small :: rest) := rfl
    refine first?_either_left (first?_seq hone ?_)
    rw [hword]
    exact hsmall.first?_smallPattern
  have hsome : (capitalsEnd.rests (.capital :: .small :: rest)).isEmpty = false := by
    obtain ⟨others, hothers⟩ := List.head?_eq_some_iff.1 hfirst
    rw [hothers]
    rfl
  rw [rests, hsome]
  rfl

/-- They end nowhere else. -/
theorem rests_capitalsEnd_of_ne {shapes : List Shape} (hne : shapes ≠ [])
    (h : ∀ rest, shapes = .capital :: rest → rest.head? ≠ some .small) :
    (ahead capitalsEnd).rests shapes = [] := by
  have hcapital : (seq (.one .capital) smallPattern).rests shapes = [] :=
    rests_seq_one_eq_nil fun rest heq => rests_smallPattern_of_ne (h rest heq)
  have hend : atEnd.rests shapes = [] := by
    rw [rests, if_neg]
    exact fun hempty => hne (List.isEmpty_iff.1 hempty)
  have hnone : capitalsEnd.rests shapes = [] := by
    rw [capitalsEnd, rests, hcapital, hend]
    rfl
  rw [rests, hnone]
  rfl

/-- One capital is not enough for the first alternative. -/
theorem rests_capitalsPattern_of_ne {shapes : List Shape}
    (h : ∀ rest, shapes = .capital :: rest → rest.head? ≠ some .capital) :
    capitalsPattern.rests shapes = [] := by
  have htwo : (seq (.one .capital) (.seq (.one .capital) (.many .capital))).rests shapes = [] :=
    rests_seq_one_eq_nil fun rest heq => rests_seq_one_of_ne (h rest heq)
  rw [capitalsPattern, rests, htwo]
  rfl

/-- What the first alternative leaves of two capitals and more: it takes all and gives them back one
by one, and looks each time whether they end there. -/
theorem rests_capitalsPattern {rest : List Shape} (h : rest.head? ≠ some .capital) (k : Nat) :
    capitalsPattern.rests (List.replicate (k + 2) .capital ++ rest) =
      (ahead capitalsEnd).rests rest ++ (List.range k).flatMap fun j =>
        (ahead capitalsEnd).rests (List.replicate (j + 1) .capital ++ rest) := by
  -- two capitals have to be there, and of the others any number may be given back
  have htwo : (seq (.one .capital) (.seq (.one .capital) (.many .capital))).rests
      (List.replicate (k + 2) .capital ++ rest) =
        (List.range (k + 1)).map fun j => List.replicate j .capital ++ rest := by
    simp only [List.replicate_succ, List.cons_append, rests, if_true, List.flatMap_singleton,
      fewer_run h]
  rw [capitalsPattern, rests, htwo, List.flatMap_map, List.range_succ_eq_map, List.flatMap_cons,
    List.flatMap_map]
  rfl

/-- The second alternative needs a small letter in front or behind the first capital. -/
theorem rests_capitalizedPattern_of_ne {shapes : List Shape} (h : shapes.head? ≠ some .small)
    (hbehind : ∀ rest, shapes = .capital :: rest → rest.head? ≠ some .small) :
    capitalizedPattern.rests shapes = [] := by
  have hwith : (seq (.one .capital) smallPattern).rests shapes = [] :=
    rests_seq_one_eq_nil fun rest heq => rests_smallPattern_of_ne (hbehind rest heq)
  have hwithout : (seq .nothing smallPattern).rests shapes = [] := by
    rw [rests, rests, List.flatMap_singleton]
    exact rests_smallPattern_of_ne h
  rw [capitalizedPattern, rests, rests, List.flatMap_append]
  rw [rests] at hwith hwithout
  rw [hwith, hwithout]
  rfl

/-- Where no capital is at the front, the first alternative does not fit. -/
theorem first?_wordPattern_of_ne {shapes : List Shape} (h : shapes.head? ≠ some .capital) :
    wordPattern.first? shapes =
      (either capitalizedPattern (.either (.one .capital) (repeated .digit))).first? shapes := by
  refine first?_either_right (rests_capitalsPattern_of_ne ?_)
  rintro rest rfl
  exact absurd rfl h

/-- A capital for which neither of the first two alternatives fits is a match by itself. -/
theorem first?_wordPattern_capital {rest : List Shape}
    (hcapitals : capitalsPattern.rests (.capital :: rest) = [])
    (hsmall : rest.head? ≠ some .small) :
    wordPattern.first? (.capital :: rest) = some rest := by
  have hcapitalized : capitalizedPattern.rests (.capital :: rest) = [] := by
    refine rests_capitalizedPattern_of_ne (fun h => nomatch h) ?_
    intro behind hbehind
    rw [← (List.cons.inj hbehind).2]
    exact hsmall
  rw [wordPattern, first?_either_right hcapitals, first?_either_right hcapitalized]
  exact first?_either_left rfl

/-- Digits are left to the last alternative and taken all at once. -/
theorem first?_digits {rest : List Shape} (h : rest.head? ≠ some .digit) (k : Nat) :
    wordPattern.first? (List.replicate (k + 1) .digit ++ rest) = some rest := by
  have hhead : (List.replicate (k + 1) Shape.digit ++ rest).head? = some .digit := rfl
  have hcapital : (List.replicate (k + 1) Shape.digit ++ rest).head? ≠ some .capital := by
    rw [hhead]
    exact fun h => nomatch h
  -- neither of the first three alternatives begins with a digit
  have hcapitalized :
      capitalizedPattern.rests (List.replicate (k + 1) Shape.digit ++ rest) = [] := by
    refine rests_capitalizedPattern_of_ne ?_ ?_
    · rw [hhead]
      exact fun h => nomatch h
    · intro behind heq
      rw [heq] at hcapital
      exact absurd rfl hcapital
  rw [first?_wordPattern_of_ne hcapital, first?_either_right hcapitalized,
    first?_either_right (rests_one_of_ne hcapital)]
  exact first?_repeated h k

/-- A small word is taken by the second alternative, without a capital in front. -/
theorem SmallWord.first?_wordPattern {word rest : List Shape} (h : SmallWord word rest) :
    wordPattern.first? (word ++ rest) = some rest := by
  have hcapital : (word ++ rest).head? ≠ some .capital := by
    rw [h.head?_eq]
    exact fun heq => nomatch heq
  have hnothing : (either (one .capital) .nothing).first? (word ++ rest) = some (word ++ rest) :=
    first?_either_right (rests_one_of_ne hcapital)
  rw [first?_wordPattern_of_ne hcapital]
  exact first?_either_left (first?_seq hnothing h.first?_smallPattern)

/-- One capital in front of a small word belongs to it. -/
theorem SmallWord.first?_capitalized {word rest : List Shape} (h : SmallWord word rest) :
    wordPattern.first? (.capital :: word ++ rest) = some rest := by
  -- behind the capital there is a small letter, so that the first alternative does not fit
  have hcapitals : capitalsPattern.rests (.capital :: (word ++ rest)) = [] := by
    refine rests_capitalsPattern_of_ne ?_
    intro behind heq
    rw [← (List.cons.inj heq).2, h.head?_eq]
    exact fun heq => nomatch heq
  rw [List.cons_append, wordPattern, first?_either_right hcapitals]
  exact first?_either_left (first?_seq (first?_either_left rfl) h.first?_smallPattern)

/-- Capitals at the end are one word, since all of them end there. -/
theorem first?_capitals (k : Nat) :
    wordPattern.first? (List.replicate (k + 1) .capital ++ []) = some [] := by
  cases k with
  | zero => rfl
  | succ k =>
    refine first?_either_left ?_
    have hne : ([] : List Shape).head? ≠ some .capital := fun h => nomatch h
    rw [first?, rests_capitalsPattern hne, rests_capitalsEnd_nil]
    rfl

/-- Before small letters the last capital is given back, because it begins a word. -/
theorem first?_capitalsBefore (k : Nat) (rest : List Shape) :
    wordPattern.first? (List.replicate (k + 1) .capital ++ .capital :: .small :: rest) =
      some (.capital :: .small :: rest) := by
  have hsmall : (Shape.small :: rest).head? ≠ some .capital := fun h => nomatch h
  have hend : (ahead capitalsEnd).rests (.small :: rest) = [] :=
    rests_capitalsEnd_of_ne (fun h => nomatch h) fun _ h => nomatch h
  have hrests := rests_capitalsPattern hsmall k
  rw [hend, List.nil_append] at hrests
  cases k with
  | zero => exact first?_wordPattern_capital hrests fun h => nomatch h
  | succ k =>
    -- all of them do not end there, all but one do, and what is tried after that does not count
    rw [← capital_cons_replicate]
    have hlast : (ahead capitalsEnd).rests (List.replicate (0 + 1) .capital ++ .small :: rest) =
        [.capital :: .small :: rest] := rests_capitalsEnd_capital rest
    rw [List.range_succ_eq_map, List.flatMap_cons, hlast] at hrests
    exact first?_either_left (congrArg List.head? hrests)

/-- However many capitals are given back before a digit, they do not end there. -/
theorem rests_capitalsEnd_digit (k : Nat) (rest : List Shape) :
    (ahead capitalsEnd).rests (List.replicate k .capital ++ .digit :: rest) = [] := by
  refine rests_capitalsEnd_of_ne (by simp) ?_
  intro behind heq
  cases k with
  | zero => exact nomatch heq
  | succ k =>
    rw [List.replicate_succ, List.cons_append] at heq
    rw [← (List.cons.inj heq).2]
    cases k with
    | zero => exact fun h => nomatch h
    | succ k => exact fun h => nomatch h

/-- So before a digit every capital is a word. -/
theorem first?_capital (k : Nat) (rest : List Shape) :
    wordPattern.first? (.capital :: (List.replicate k .capital ++ .digit :: rest)) =
      some (List.replicate k .capital ++ .digit :: rest) := by
  have hdigit : (Shape.digit :: rest).head? ≠ some .capital := fun h => nomatch h
  cases k with
  | zero =>
    refine first?_wordPattern_capital (rests_capitalsPattern_of_ne ?_) fun h => nomatch h
    intro behind heq
    rw [← (List.cons.inj heq).2]
    exact hdigit
  | succ k =>
    have hrests :
        capitalsPattern.rests (List.replicate (k + 2) .capital ++ .digit :: rest) = [] := by
      have hfirst : (ahead capitalsEnd).rests (.digit :: rest) = [] :=
        rests_capitalsEnd_digit 0 rest
      rw [rests_capitalsPattern hdigit, hfirst, List.nil_append, List.flatMap_eq_nil_iff]
      intro j _
      exact rests_capitalsEnd_digit (j + 1) rest
    exact first?_wordPattern_capital hrests fun h => nomatch h

/-- **The first match is the word at the front.** -/
theorem FirstWord.first?_wordPattern {word rest : List Shape} (h : FirstWord word rest) :
    wordPattern.first? (word ++ rest) = some rest := by
  cases h with
  | digits k hdigit => exact first?_digits hdigit k
  | small h => exact h.first?_wordPattern
  | capitalized h => exact h.first?_capitalized
  | capitals k => exact first?_capitals k
  | capitalsBefore k rest => exact first?_capitalsBefore k rest
  | capital k rest => exact first?_capital k rest

/-! ## The words of a run -/

/-- A word has characters in it, so something is taken off the run with each match. -/
theorem FirstWord.ne_nil {word rest : List Shape} (h : FirstWord word rest) : word ≠ [] := by
  cases h with
  | digits => exact List.cons_ne_nil _ _
  | small h =>
    obtain ⟨k, m, -, -⟩ := h
    exact List.cons_ne_nil _ _
  | capitalized => exact List.cons_ne_nil _ _
  | capitals => exact List.cons_ne_nil _ _
  | capitalsBefore => exact List.cons_ne_nil _ _
  | capital => exact List.cons_ne_nil _ _

/-- Where a run is cut, the word at its front ends. -/
theorem firstWord_take {run : List Char} (h : run ≠ []) :
    FirstWord ((run.take (wordLength (run.map shapeOf))).map shapeOf)
      ((run.drop (wordLength (run.map shapeOf))).map shapeOf) := by
  have hne : run.map shapeOf ≠ [] := fun hnil => h (List.map_eq_nil_iff.1 hnil)
  obtain ⟨word, rest, hword, hfirst, hlength⟩ := exists_firstWord hne
  rw [List.map_take, List.map_drop, hlength, hword, List.take_left, List.drop_left]
  exact hfirst

/-- The word at the front is found first, and what is behind it is searched as if it stood
alone. -/
theorem found_firstWord {word rest : List Char}
    (h : FirstWord (word.map shapeOf) (rest.map shapeOf)) :
    wordPattern.found (word ++ rest) = word :: wordPattern.found rest := by
  cases word with
  | nil => exact absurd rfl h.ne_nil
  | cons c word =>
    have hfirst : wordPattern.first? ((c :: (word ++ rest)).map shapeOf) =
        some (rest.map shapeOf) := by
      rw [← List.cons_append, List.map_append]
      exact h.first?_wordPattern
    -- the pattern tells only what is left; how much was taken is the difference
    have htaken : (word ++ rest).length + 1 - (rest.map shapeOf).length = (c :: word).length := by
      rw [List.length_append, List.length_map, List.length_cons]
      omega
    have hpos : (c :: word).length ≠ 0 := Nat.succ_ne_zero _
    rw [List.cons_append, found, hfirst]
    simp only [htaken, if_neg hpos]
    rw [← List.cons_append, List.take_left, List.drop_left]

/-- **What the pattern finds in a run are its words.** -/
theorem found_wordPattern (chunk : List Char) : wordPattern.found chunk = wordsOfChunk chunk := by
  -- by the recursion that cuts off one word after the other
  fun_induction wordsOfChunk chunk with
  | case1 => rw [found]
  | case2 c rest n ih =>
    have hfound := found_firstWord (firstWord_take (List.cons_ne_nil c rest))
    rw [List.take_append_drop] at hfound
    rw [hfound, ih]

end ApiOutline.Name
