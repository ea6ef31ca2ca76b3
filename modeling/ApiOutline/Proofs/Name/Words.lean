/-
Where a name is cut into words.

The words are found from left to right, each as long as the pattern takes it. That they could be
read off the name at once is not plain from this: how much a match takes depends on where the one
before it ended, and on how much it gave back. It holds because the word at the front is a piece,
that is, no two characters in it are apart and its last character is apart from the one behind it
(`FirstWord.piece`). Whether two neighbours are apart (`isCut`) does not depend on what stands in
front of them. So what is left behind the word is cut where it was cut before, and the words are
the pieces between the cuts (`wordsOfChunk_eq_cutWords`).

Separators only end runs, and the words of a text with a separator in it are those in front of it
and those behind it (`wordsOf_append_cons`). How many separators there are, and which, is forgotten
with them.
-/
import ApiOutline.Proofs.Name.WordPattern

set_option autoImplicit false

namespace ApiOutline.Name

/-! ## Cuts -/

/-- Are the first two shapes apart? Two capitals are if a digit follows the last capital in a row,
or if a small letter follows it and it is the second of the two. -/
def isCut : List Shape → Bool
  | .small :: .capital :: _ => true
  | .digit :: .capital :: _ => true
  | .digit :: .small :: _ => true
  | .capital :: .digit :: _ => true
  | .capital :: .capital :: rest =>
    match rest.dropWhile (· == .capital) with
    | .digit :: _ => true
    | .small :: _ => rest.head? == some .small
    | _ => false
  | _ => false

/-- A run with a cut between all neighbours that are apart. -/
def cutWords : List Char → List (List Char)
  | [] => []
  | c :: rest =>
    match cutWords rest with
    | [] => [[c]]
    | word :: others =>
      if isCut ((c :: rest).map shapeOf) then [c] :: word :: others else (c :: word) :: others

/-- The maximal runs of alphanumeric characters: what is between the others and is not empty. -/
def runs (cs : List Char) : List (List Char) :=
  (cs.splitOnP fun c => !Text.isAlphanumeric c).filter fun run => !run.isEmpty

/-- Characters that separate words. -/
def IsGap (gap : String) : Prop :=
  gap ≠ "" ∧ ∀ c ∈ gap.toList, Text.isAlphanumeric c = false

instance (gap : String) : Decidable (IsGap gap) :=
  decidable_of_iff (gap ≠ "" ∧ gap.toList.all (fun c => !Text.isAlphanumeric c) = true)
    (and_congr_right fun _ => by simp only [List.all_eq_true, Bool.not_eq_true'])

/-! ## Pieces -/

/-- Shapes in front of `rest` of which no two neighbours are apart, and the last is apart from
`rest`. -/
inductive Piece : List Shape → List Shape → Prop where
  | last {s : Shape} {rest : List Shape} (h : rest = [] ∨ isCut (s :: rest) = true) :
      Piece [s] rest
  | cons {s t : Shape} {word rest : List Shape} (h : isCut (s :: t :: (word ++ rest)) = false)
      (hword : Piece (t :: word) rest) : Piece (s :: t :: word) rest

/-- Other capitals are passed over. -/
theorem dropWhile_capitals (k : Nat) (rest : List Shape) :
    (List.replicate k Shape.capital ++ rest).dropWhile (· == .capital) =
      rest.dropWhile (· == .capital) := by
  rw [List.dropWhile_append_of_pos]
  intro s hs
  rw [List.eq_of_mem_replicate hs]
  rfl

/-- Before a digit all capitals are apart. -/
theorem isCut_capitals_digit (k : Nat) (rest : List Shape) :
    isCut (.capital :: .capital :: (List.replicate k .capital ++ .digit :: rest)) = true := by
  rw [isCut, dropWhile_capitals]
  rfl

/-- Before small letters only the last capital is apart from the one in front of it. -/
theorem isCut_capitals_small (k : Nat) (rest : List Shape) :
    isCut (.capital :: .capital :: (List.replicate k .capital ++ .capital :: .small :: rest)) =
      false := by
  rw [isCut, dropWhile_capitals]
  cases k with
  | zero => rfl
  | succ k => rfl

/-- At the end none is. -/
theorem isCut_capitals_end (k : Nat) :
    isCut (.capital :: .capital :: (List.replicate k .capital ++ [])) = false := by
  rw [isCut, dropWhile_capitals]
  rfl

/-- Digits in a row belong together, and the last is apart from whatever else follows. -/
theorem piece_digits {rest : List Shape} (h : rest.head? ≠ some .digit) (k : Nat) :
    Piece (List.replicate (k + 1) .digit) rest := by
  induction k with
  | zero =>
    refine .last ?_
    match rest with
    | [] => exact .inl rfl
    | .capital :: _ => exact .inr rfl
    | .small :: _ => exact .inr rfl
    | .digit :: _ => exact absurd rfl h
  | succ k ih => exact .cons rfl ih

/-- Small letters belong together as well, and the last is apart from a capital. -/
theorem piece_smalls {rest : List Shape} (hdigit : rest.head? ≠ some .digit)
    (hsmall : rest.head? ≠ some .small) (k : Nat) :
    Piece (List.replicate (k + 1) .small) rest := by
  induction k with
  | zero =>
    refine .last ?_
    match rest with
    | [] => exact .inl rfl
    | .capital :: _ => exact .inr rfl
    | .small :: _ => exact absurd rfl hsmall
    | .digit :: _ => exact absurd rfl hdigit
  | succ k ih => exact .cons rfl ih

/-- Small letters and the digits behind them belong together, since a digit is not apart from a
letter in front of it. -/
theorem piece_smalls_digits {rest : List Shape} (hdigit : rest.head? ≠ some .digit) (k m : Nat) :
    Piece (List.replicate (k + 1) .small ++ List.replicate (m + 1) .digit) rest := by
  induction k with
  | zero => exact .cons rfl (piece_digits hdigit m)
  | succ k ih => exact .cons rfl ih

/-- A small word is a piece, with or without digits. -/
theorem SmallWord.piece {word rest : List Shape} (h : SmallWord word rest) : Piece word rest := by
  obtain ⟨k, m, hdigit, hsmall⟩ := h
  cases m with
  | zero =>
    rw [List.replicate_zero, List.append_nil]
    exact piece_smalls hdigit (hsmall rfl) k
  | succ m => exact piece_smalls_digits hdigit k m

/-- **The word at the front is a piece.** It is cut off behind its last shape and nowhere before.
In a run of capitals that depends on what follows them, so there are three cases for these. -/
theorem FirstWord.piece {word rest : List Shape} (h : FirstWord word rest) : Piece word rest := by
  cases h with
  | digits k hdigit => exact piece_digits hdigit k
  | small h => exact h.piece
  | capitalized h =>
    have hpiece := h.piece
    obtain ⟨k, m, -, -⟩ := h
    exact .cons rfl hpiece
  | capitals k =>
    induction k with
    | zero => exact .last (.inl rfl)
    | succ k ih => exact .cons (isCut_capitals_end k) ih
  | capitalsBefore k rest =>
    induction k with
    | zero => exact .last (.inr rfl)
    | succ k ih => exact .cons (isCut_capitals_small k rest) ih
  | capital k rest =>
    refine .last (.inr ?_)
    cases k with
    | zero => rfl
    | succ k => exact isCut_capitals_digit k rest

/-! ## The words of a run -/

/-- Only the empty run is cut into no words. -/
theorem cutWords_eq_nil {run : List Char} (h : cutWords run = []) : run = [] := by
  cases run with
  | nil => rfl
  | cons c rest =>
    rw [cutWords] at h
    split at h
    · exact nomatch h
    · split at h <;> exact nomatch h

/-- A piece at the front is the first word, and what is behind it is cut as if it stood alone. -/
theorem cutWords_piece {word rest : List Char}
    (h : Piece (word.map shapeOf) (rest.map shapeOf)) :
    cutWords (word ++ rest) = word :: cutWords rest := by
  -- all but the last character are put in front of the word that begins behind them
  induction word with
  | nil => exact nomatch h
  | cons c word ih =>
    cases word with
    | nil =>
      rw [List.singleton_append, cutWords]
      cases hwords : cutWords rest with
      | nil => rfl
      | cons first others =>
        have hcut : isCut ((c :: rest).map shapeOf) = true := by
          cases h with
          | last h =>
            refine h.resolve_left fun hnil => ?_
            rw [List.map_eq_nil_iff.1 hnil] at hwords
            exact nomatch hwords
        simp only [hcut, if_true]
    | cons d word =>
      have hcut : isCut ((c :: (d :: word ++ rest)).map shapeOf) = false := by
        cases h with
        | cons h _ => rwa [← List.map_append] at h
      have hrest : Piece ((d :: word).map shapeOf) (rest.map shapeOf) := by
        cases h with
        | cons _ h => exact h
      rw [List.cons_append, cutWords, ih hrest]
      simp only [hcut, Bool.false_eq_true, if_false]

/-- **The words of a run are the pieces between its cuts.** -/
theorem wordsOfChunk_eq_cutWords (chunk : List Char) : wordsOfChunk chunk = cutWords chunk := by
  fun_induction wordsOfChunk chunk with
  | case1 => rfl
  | case2 c rest n ih =>
    have hcut := cutWords_piece (firstWord_take (List.cons_ne_nil c rest)).piece
    rw [List.take_append_drop] at hcut
    rw [hcut, ih]

/-- **Cutting a run loses nothing**: its words one behind the other are the run. -/
theorem flatten_cutWords (run : List Char) : (cutWords run).flatten = run := by
  induction run with
  | nil => rfl
  | cons c rest ih =>
    rw [cutWords]
    cases hwords : cutWords rest with
    | nil => rw [cutWords_eq_nil hwords]; rfl
    | cons word others =>
      rw [hwords] at ih
      -- the first character begins a word of its own, or is put in front of the first one
      by_cases hcut : isCut ((c :: rest).map shapeOf) = true
      · simp only [hcut, if_true]
        rw [List.flatten_cons, ih]
        rfl
      · simp only [if_neg hcut]
        rw [List.flatten_cons, List.cons_append, ← List.flatten_cons, ih]

/-- No word of a run is empty, as every one of them is begun with a character. -/
theorem ne_nil_of_mem_cutWords {run word : List Char} (h : word ∈ cutWords run) : word ≠ [] := by
  induction run generalizing word with
  | nil => exact nomatch h
  | cons c rest ih =>
    rw [cutWords] at h
    cases hwords : cutWords rest with
    | nil =>
      rw [hwords, List.mem_singleton] at h
      exact h ▸ fun hnil => nomatch hnil
    | cons first others =>
      rw [hwords] at h ih
      dsimp only at h
      split at h
      · rcases List.mem_cons.1 h with rfl | h
        · exact fun hnil => nomatch hnil
        · exact ih h
      · rcases List.mem_cons.1 h with rfl | h
        · exact fun hnil => nomatch hnil
        · exact ih (List.mem_cons_of_mem _ h)

/-! ## The words of a text -/

/-- Reading runs character by character is splitting at the separators and leaving out what is
empty. The induction carries the run that is being read. -/
theorem chunksFrom_eq (run cs : List Char) :
    chunksFrom run cs =
      (List.splitOnPPrepend (fun c => !Text.isAlphanumeric c) cs run).filter
        fun run => !run.isEmpty := by
  -- both keep the run that is being read, last character first
  induction cs generalizing run with
  | nil =>
    rw [chunksFrom, List.splitOnPPrepend_nil, List.filter_cons, List.isEmpty_reverse]
    cases run <;> rfl
  | cons c rest ih =>
    rw [chunksFrom, List.splitOnPPrepend_cons_eq_if]
    cases hc : Text.isAlphanumeric c with
    | true => exact ih (c :: run)
    | false =>
      have hrest : chunksFrom [] rest = runs rest := ih []
      simp only [Bool.false_eq_true, if_false, Bool.not_false, if_true, List.filter_cons,
        List.isEmpty_reverse, hrest]
      cases run <;> rfl

/-- So the runs of a text are its maximal ones. -/
theorem chunks_eq_runs (cs : List Char) : chunks cs = runs cs :=
  chunksFrom_eq [] cs

/-- The words of a text are those of its runs, one run after the other. -/
theorem wordsOf_eq_cutWords (cs : List Char) : wordsOf cs = (runs cs).flatMap cutWords := by
  have hwords : wordsOfChunk = cutWords := funext wordsOfChunk_eq_cutWords
  rw [wordsOf, chunks_eq_runs, hwords]

/-- **A separator keeps the words in front of it and those behind it apart**, and is in none. -/
theorem wordsOf_append_cons {c : Char} (hc : Text.isAlphanumeric c = false) (x y : List Char) :
    wordsOf (x ++ c :: y) = wordsOf x ++ wordsOf y := by
  have hsep : (!Text.isAlphanumeric c) = true := by
    rw [hc]
    rfl
  have hruns : runs (x ++ c :: y) = runs x ++ runs y := by
    rw [runs, List.splitOnP_append_cons x y hsep, List.filter_append]
    rfl
  rw [wordsOf_eq_cutWords, hruns, List.flatMap_append, ← wordsOf_eq_cutWords,
    ← wordsOf_eq_cutWords]

theorem wordsOf_nil : wordsOf [] = [] := rfl

/-- So do several of them. -/
theorem wordsOf_gap {gap : List Char} (hne : gap ≠ [])
    (hgap : ∀ c ∈ gap, Text.isAlphanumeric c = false) (x y : List Char) :
    wordsOf (x ++ (gap ++ y)) = wordsOf x ++ wordsOf y := by
  induction gap generalizing x with
  | nil => exact absurd rfl hne
  | cons c gap ih =>
    rw [List.cons_append, wordsOf_append_cons (hgap c List.mem_cons_self)]
    cases gap with
    | nil => rfl
    | cons d gap =>
      -- the other separators have nothing in front of them
      have hrest := ih (fun h => nomatch h) (fun d hd => hgap d (List.mem_cons_of_mem _ hd)) []
      rw [List.nil_append, wordsOf_nil, List.nil_append] at hrest
      rw [hrest]

/-- No character is lost, doubled or moved but for the separators, and they are all left out. For
the induction the run that is being collected stands in front of what is still to be read, from
its end. -/
theorem flatten_chunksFrom (run cs : List Char) :
    (chunksFrom run cs).flatten = run.reverse ++ cs.filter Text.isAlphanumeric := by
  induction cs generalizing run with
  | nil =>
    rw [chunksFrom]
    cases run with
    | nil => rfl
    | cons c run =>
      rw [List.isEmpty_cons, if_neg Bool.false_ne_true, List.flatten_singleton, List.filter_nil,
        List.append_nil]
  | cons c rest ih =>
    rw [chunksFrom]
    -- the character goes on with the run, or ends it and is dropped
    cases hc : Text.isAlphanumeric c with
    | true =>
      rw [if_pos rfl, ih, List.filter_cons_of_pos hc, List.reverse_cons, List.append_assoc]
      rfl
    | false =>
      have hdrop : (c :: rest).filter Text.isAlphanumeric = rest.filter Text.isAlphanumeric :=
        List.filter_cons_of_neg (by rw [hc]; exact Bool.false_ne_true)
      have hrest : (chunksFrom [] rest).flatten = rest.filter Text.isAlphanumeric := ih []
      rw [if_neg Bool.false_ne_true, hdrop]
      cases run with
      | nil => exact hrest
      | cons d run =>
        rw [List.isEmpty_cons, if_neg Bool.false_ne_true, List.flatten_cons, hrest]

/-- The words of a text one behind the other are its alphanumeric characters, in their order. -/
theorem flatten_wordsOf (cs : List Char) :
    (wordsOf cs).flatten = cs.filter Text.isAlphanumeric := by
  have hcut : (cutWords · |>.flatten) = id := funext flatten_cutWords
  have hruns : (runs cs).flatten = cs.filter Text.isAlphanumeric := by
    rw [← chunks_eq_runs]
    exact flatten_chunksFrom [] cs
  rw [wordsOf_eq_cutWords, List.flatMap_def, List.flatten_flatten, List.map_map]
  exact (congrArg (fun f => ((runs cs).map f).flatten) hcut).trans (by rw [List.map_id, hruns])

/-- No word of a text is empty. -/
theorem ne_nil_of_mem_wordsOf {cs word : List Char} (h : word ∈ wordsOf cs) : word ≠ [] := by
  rw [wordsOf_eq_cutWords] at h
  obtain ⟨run, -, hword⟩ := List.mem_flatMap.1 h
  exact ne_nil_of_mem_cutWords hword

/-! ## The words of a name -/

/-- A gap between two texts keeps their words apart, for any gap, so gaps can be exchanged. -/
theorem words_append_gap {gap : String} (hgap : IsGap gap) (before behind : String) :
    words (before ++ gap ++ behind) = words before ++ words behind := by
  have hne : gap.toList ≠ [] := fun h => hgap.1 (String.toList_eq_nil_iff.1 h)
  rw [words, String.toList_append, String.toList_append, List.append_assoc,
    wordsOf_gap hne hgap.2, List.map_append]
  rfl

theorem words_empty : words "" = [] := rfl

/-- **Reading the words off a name.** What the pattern finds in the runs of alphanumeric characters
are the pieces between the cuts. No word is empty, together they are the name without its
separators, and neither which separators stand between two words nor what stands at the ends
changes them. -/
theorem words_eq_cutWords (name : String) :
    words name = ((runs name.toList).flatMap wordPattern.found).map String.ofList ∧
      words name = ((runs name.toList).flatMap cutWords).map String.ofList ∧
      (∀ word ∈ words name, word ≠ "") ∧
      String.join (words name) = String.ofList (name.toList.filter Text.isAlphanumeric) ∧
      (∀ before gap other behind, IsGap gap → IsGap other → name = before ++ gap ++ behind →
        words (before ++ other ++ behind) = words name) ∧
      ∀ gap, IsGap gap → words (gap ++ name) = words name ∧ words (name ++ gap) = words name := by
  have hfound : wordPattern.found = wordsOfChunk := funext found_wordPattern
  -- pattern, cuts, no empty word, nothing lost, gaps exchanged, gaps at the ends
  refine ⟨?_, ?_, ?_, ?_, ?_, ?_⟩
  · rw [hfound, ← chunks_eq_runs]
    rfl
  · rw [← wordsOf_eq_cutWords]
    rfl
  · intro word hword
    obtain ⟨cs, hcs, rfl⟩ := List.mem_map.1 hword
    intro hempty
    exact ne_nil_of_mem_wordsOf hcs (by rw [← String.toList_ofList (l := cs), hempty]; rfl)
  · have hlists : (words name).map String.toList = wordsOf name.toList := by
      have hid : String.toList ∘ String.ofList = id := funext fun _ => String.toList_ofList
      rw [words, List.map_map, hid, List.map_id]
    rw [← String.toList_inj, String.toList_join, String.toList_ofList, List.flatMap_def, hlists,
      flatten_wordsOf]
  · intro before gap other behind hgap hother hname
    rw [hname, words_append_gap hgap, words_append_gap hother]
  · intro gap hgap
    have hfront := words_append_gap hgap "" name
    have hback := words_append_gap hgap name ""
    rw [words_empty] at hfront hback
    rw [String.empty_append] at hfront
    rw [String.append_empty, List.append_nil] at hback
    exact ⟨hfront, hback⟩

/-- A name with a row of capitals in it is cut where one would cut it, and other separators make
no difference. -/
theorem words_eq_cutWords_request :
    IsGap "-" ∧ IsGap " _ " ∧ words "X-HTTPRequest2" = ["X", "HTTP", "Request2"] ∧
      words "X _ HTTPRequest2" = words "X-HTTPRequest2" ∧
      words "X-HTTPRequest2-" = words "X-HTTPRequest2" := by
  have hgap : IsGap "-" := by decide
  have hother : IsGap " _ " := by decide
  obtain ⟨-, hcut, -, -, hbetween, hends⟩ := words_eq_cutWords "X-HTTPRequest2"
  refine ⟨hgap, hother, hcut.trans (by decide), ?_, (hends "-" hgap).2⟩
  exact hbetween "X" "-" " _ " "HTTPRequest2" hgap hother rfl

end ApiOutline.Name
