/-
What each segment of a path contributes to a name.

A name made of a path is made in one piece: slashes at the end are taken off, what stands before
the first slash is dropped, placeholders are marked, the segments are joined with blanks and the
whole is cut into words again. None of this lets one segment touch another. A blank separates words
(`wordsOf_append_cons`), so the words of the joined segments are the words of each, one after the
other (`wordsOf_intercalate`); and a slash at the end only adds an empty segment, which has no
words, so it does not matter that it was taken off (`wordsBehind_dropEnd`).

So a name is the verb with what the segments contribute behind it (`ofPath_eq`), and a path may be
cut at any of its slashes (`wordsBehind_append`).
-/
import ApiOutline.Name.Method
import ApiOutline.Proofs.Name.Words

set_option autoImplicit false

namespace ApiOutline.Name

/-- The words of the segments behind the first slash, in order. -/
def wordsBehind (path : List Char) : List (List Char) :=
  ((Text.splitAt '/' path).drop 1).flatMap fun segment => wordsOf (segmentText segment)

/-! ## One word after the other -/

/-- The words of pieces that are joined with blanks are those of each piece, in their order. -/
theorem wordsOf_intercalate (pieces : List (List Char)) :
    wordsOf ([' '].intercalate pieces) = pieces.flatMap wordsOf := by
  induction pieces with
  | nil => rfl
  | cons piece pieces ih =>
    cases pieces with
    | nil => rw [List.intercalate_singleton, List.flatMap_singleton]
    | cons next others =>
      -- the first blank keeps the first piece apart from all the others
      have hblank : Text.isAlphanumeric ' ' = false := by decide
      rw [List.intercalate_cons_cons, List.append_assoc, List.singleton_append,
        wordsOf_append_cons hblank, ih, ← List.flatMap_cons]

/-- A path may be cut at a slash. -/
theorem wordsBehind_append (x y : List Char) :
    wordsBehind (x ++ '/' :: y) = wordsBehind x ++ wordsBehind ('/' :: y) := by
  have hfront : 1 ≤ (Text.splitAt '/' x).length :=
    List.length_pos_iff.2 (Text.splitAt_ne_nil '/' x)
  have hback : Text.splitAt '/' ('/' :: y) = [] :: Text.splitAt '/' y :=
    Text.splitAt_append '/' [] y
  rw [wordsBehind, Text.splitAt_append, List.drop_append_of_le_length hfront, List.flatMap_append,
    wordsBehind, wordsBehind, hback]
  rfl

/-- An empty segment contributes nothing. -/
theorem wordsBehind_slash : wordsBehind ['/'] = [] := by decide

/-- Any number of slashes at the end adds nothing. -/
theorem wordsBehind_slashes (x : List Char) (k : Nat) :
    wordsBehind (x ++ List.replicate k '/') = wordsBehind x := by
  induction k with
  | zero => rw [List.replicate_zero, List.append_nil]
  | succ k ih =>
    rw [List.replicate_succ', ← List.append_assoc, wordsBehind_append, ih, wordsBehind_slash,
      List.append_nil]

/-- Slashes at the end might as well have been left there. -/
theorem wordsBehind_dropEnd (path : List Char) :
    wordsBehind (Text.dropEnd (· == '/') path) = wordsBehind path := by
  have hslash : ∀ c ∈ path.reverse.takeWhile (· == '/'), c = '/' := by
    intro c hc
    exact beq_iff_eq.1 (List.all_eq_true.1 List.all_takeWhile c hc)
  have hslashes : path.reverse.takeWhile (· == '/') =
      List.replicate (path.reverse.takeWhile (· == '/')).length '/' :=
    List.eq_replicate_iff.2 ⟨rfl, hslash⟩
  -- the path is what is left of it with so many slashes behind
  have hpath : path = Text.dropEnd (· == '/') path ++
      List.replicate (path.reverse.takeWhile (· == '/')).length '/' := by
    rw [Text.dropEnd, ← List.reverse_replicate, ← List.reverse_append, ← hslashes,
      List.takeWhile_append_dropWhile, List.reverse_reverse]
  calc wordsBehind (Text.dropEnd (· == '/') path)
      = wordsBehind (Text.dropEnd (· == '/') path ++
          List.replicate (path.reverse.takeWhile (· == '/')).length '/') :=
        (wordsBehind_slashes _ _).symm
    _ = wordsBehind path := by rw [← hpath]

/-! ## The name of a path -/

/-- **A name is the verb with the words of the segments behind it.** -/
theorem ofPath_eq (verb path : String) :
    ofPath verb path =
      Text.lower verb ++ String.ofList (capitalizedJoin (wordsBehind path.toList)) := by
  rw [ofPath, wordsOf_intercalate, List.flatMap_map, segments]
  exact congrArg (fun ws => Text.lower verb ++ String.ofList (capitalizedJoin ws))
    (wordsBehind_dropEnd path.toList)

/-- Words are joined one by one, so a list of words can be joined in parts. -/
theorem capitalizedJoin_append (xs ys : List (List Char)) :
    capitalizedJoin (xs ++ ys) = capitalizedJoin xs ++ capitalizedJoin ys :=
  List.flatMap_append

theorem toList_slash_append (rest : String) : ("/" ++ rest).toList = '/' :: rest.toList := by
  rw [String.toList_append]
  rfl

theorem lower_empty : Text.lower "" = "" := by decide

/-- What a path contributes behind one of its slashes. -/
theorem ofPath_slash (rest : String) :
    ofPath "" ("/" ++ rest) =
      String.ofList (capitalizedJoin (wordsBehind ('/' :: rest.toList))) := by
  rw [ofPath_eq, lower_empty, String.empty_append, toList_slash_append]

/-- **A name may be put together at any slash of the path**: what is in front of it keeps the
verb, and what is behind it is read as a path of its own without one. -/
theorem ofPath_append (verb path rest : String) :
    ofPath verb (path ++ "/" ++ rest) = ofPath verb path ++ ofPath "" ("/" ++ rest) := by
  have hpath : (path ++ "/" ++ rest).toList = path.toList ++ '/' :: rest.toList := by
    rw [String.append_assoc, String.toList_append, toList_slash_append]
  rw [ofPath_slash, ofPath_eq, ofPath_eq, hpath, wordsBehind_append, capitalizedJoin_append,
    String.ofList_append, String.append_assoc]

/-- What is behind a slash contributes nothing if it is empty. -/
theorem ofPath_slash_empty : ofPath "" "/" = "" := by
  rw [ofPath_eq, lower_empty]
  decide

/-- Before the first slash nothing is read. -/
theorem ofPath_of_not_mem {path : String} (h : '/' ∉ path.toList) (verb : String) :
    ofPath verb path = Text.lower verb := by
  have hwords : wordsBehind path.toList = [] := by
    rw [wordsBehind, Text.splitAt_of_not_mem h]
    rfl
  rw [ofPath_eq, hwords]
  exact String.append_empty

/-! ## The contribution of a segment -/

theorem toList_braces (x : String) :
    ("\x7b" ++ x ++ "\x7d").toList = '{' :: (x.toList ++ ['}']) := by
  rw [String.toList_append, String.toList_append, List.append_assoc]
  rfl

/-- A placeholder is read as its name with a word in front. -/
theorem segmentText_braces (x : List Char) :
    segmentText ('{' :: (x ++ ['}'])) = "by_".toList ++ x := by
  have hbegins : Text.beginsWith ['{'] ('{' :: (x ++ ['}'])) = true := rfl
  have hends : Text.endsWith ['}'] ('{' :: (x ++ ['}'])) = true := by
    rw [Text.endsWith, ← List.cons_append, List.reverse_append]
    rfl
  rw [segmentText, hbegins, hends, List.drop_succ_cons, List.drop_zero, List.dropLast_concat]
  rfl

/-- Any other segment is read as it stands. A single brace is not a placeholder, although it
begins and ends with one. -/
theorem segmentText_of_ne {segment : List Char} (h : ∀ x, segment ≠ '{' :: (x ++ ['}'])) :
    segmentText segment = segment := by
  refine if_neg fun hboth => ?_
  obtain ⟨hbegins, hends⟩ := (Bool.and_eq_true _ _).mp hboth
  obtain ⟨rest, hrest⟩ := Option.isSome_iff_exists.1 hbegins
  obtain ⟨front, hfront⟩ := Option.isSome_iff_exists.1 hends
  have hfirst : segment = '{' :: rest := Text.eq_append_of_after? hrest
  have hlast : segment = front.reverse ++ ['}'] := by
    have hreverse := Text.eq_append_of_after? hfront
    rw [← List.reverse_reverse segment, hreverse, List.reverse_append]
    rfl
  -- the two braces would be one and the same, or there is something between them
  cases hx : front.reverse with
  | nil =>
    rw [hx, hfirst] at hlast
    exact absurd (List.cons.inj hlast).1 (by decide)
  | cons c x =>
    rw [hx, hfirst] at hlast
    have hc : '{' = c := (List.cons.inj hlast).1
    rw [hfirst, hlast, hc] at h
    exact h x rfl

/-- Words with their first letters raised, as texts. -/
theorem ofList_capitalizedJoin (cs : List Char) :
    String.ofList (capitalizedJoin (wordsOf cs)) =
      String.join ((words (String.ofList cs)).map Text.capitalize) := by
  have hwords : ((wordsOf cs).map String.ofList).map Text.capitalize =
      (wordsOf cs).map fun w => String.ofList (Text.capitalizeChars w) := by
    rw [List.map_map]
    refine List.map_congr_left fun w _ => ?_
    rw [Function.comp_apply, Text.capitalize, String.toList_ofList]
  rw [← String.toList_inj, words, String.toList_ofList, String.toList_ofList, hwords,
    String.toList_join, List.flatMap_map, capitalizedJoin]
  exact congrArg (fun f => (wordsOf cs).flatMap f) (funext fun w => String.toList_ofList.symm)

/-- A segment contributes the words of its text. -/
theorem ofPath_segment {segment : String} (h : '/' ∉ segment.toList) :
    ofPath "" ("/" ++ segment) =
      String.ofList (capitalizedJoin (wordsOf (segmentText segment.toList))) := by
  have hsplit : Text.splitAt '/' ('/' :: segment.toList) = [[], segment.toList] := by
    have happend := Text.splitAt_append '/' [] segment.toList
    rw [Text.splitAt_of_not_mem h] at happend
    exact happend
  have hwords : wordsBehind ('/' :: segment.toList) = wordsOf (segmentText segment.toList) := by
    rw [wordsBehind, hsplit]
    exact List.flatMap_singleton _ _
  rw [ofPath_slash, hwords]

/-- A segment that is no placeholder contributes its words, each with a capital. -/
theorem ofPath_plain {segment : String} (h : '/' ∉ segment.toList)
    (hplain : ∀ x, segment ≠ "\x7b" ++ x ++ "\x7d") :
    ofPath "" ("/" ++ segment) = String.join ((words segment).map Text.capitalize) := by
  have htext : segmentText segment.toList = segment.toList := by
    refine segmentText_of_ne fun x hx => hplain (String.ofList x) ?_
    rw [← String.toList_inj, toList_braces, String.toList_ofList, hx]
  rw [ofPath_segment h, htext, ofList_capitalizedJoin, String.ofList_toList]

/-- A placeholder contributes the word that marks it and the words of its name. The mark is put in
front with an underscore, which separates words and leaves no trace. -/
theorem ofPath_placeholder {x : String} (h : '/' ∉ ("\x7b" ++ x ++ "\x7d").toList) :
    ofPath "" ("/" ++ ("\x7b" ++ x ++ "\x7d")) =
      "By" ++ String.join ((words x).map Text.capitalize) := by
  -- the mark in front is a word of its own, for an underscore separates words
  have hwords : wordsOf ("by_".toList ++ x.toList) = ['b', 'y'] :: wordsOf x.toList := by
    have hby : wordsOf ['b', 'y'] = [['b', 'y']] := by
      rw [wordsOf_eq_cutWords]
      decide
    have happend := wordsOf_append_cons (c := '_') (by decide) ['b', 'y'] x.toList
    rw [hby] at happend
    exact happend
  have hby : Text.capitalizeChars ['b', 'y'] = "By".toList := by decide
  have hjoin := ofList_capitalizedJoin x.toList
  rw [String.ofList_toList] at hjoin
  rw [ofPath_segment h, toList_braces, segmentText_braces, hwords, capitalizedJoin,
    List.flatMap_cons, hby, String.ofList_append, String.ofList_toList]
  exact congrArg ("By" ++ ·) hjoin

/-! ## Segment by segment -/

/-- The segments behind a path, each behind a slash, contribute one after the other. -/
theorem ofPath_intercalate (verb path : String) (segments : List String) :
    ofPath verb ("/".intercalate (path :: segments)) =
      ofPath verb path ++ String.join (segments.map fun segment => ofPath "" ("/" ++ segment)) := by
  induction segments generalizing verb path with
  | nil => rw [String.intercalate_singleton, List.map_nil, String.join_nil, String.append_empty]
  -- the first segment is cut off at its slash
  | cons segment others ih =>
    rw [String.intercalate_cons_cons, ofPath_append, ← String.intercalate_cons_append, ih,
      List.map_cons, String.join_cons]

/-- **A name is put together segment by segment.** A path may be cut at any slash, and a slash more
between two segments or at the end makes no difference. What stands before the first slash is not
read; each segment behind it contributes its own words, behind the word `By` if it is a
placeholder. -/
theorem ofPath_compositional (verb path rest : String) :
    ofPath verb (path ++ "/" ++ rest) = ofPath verb path ++ ofPath "" ("/" ++ rest) ∧
      ofPath verb (path ++ "//" ++ rest) = ofPath verb (path ++ "/" ++ rest) ∧
      ofPath verb (path ++ "/") = ofPath verb path ∧
      ('/' ∉ path.toList → ofPath verb path = Text.lower verb) ∧
      (∀ segments, ofPath verb ("/".intercalate (path :: segments)) =
        ofPath verb path ++ String.join (segments.map fun segment => ofPath "" ("/" ++ segment))) ∧
      ∀ segment, '/' ∉ segment.toList →
        (∀ x, segment = "\x7b" ++ x ++ "\x7d" →
          ofPath "" ("/" ++ segment) = "By" ++ String.join ((words x).map Text.capitalize)) ∧
        ((∀ x, segment ≠ "\x7b" ++ x ++ "\x7d") →
          ofPath "" ("/" ++ segment) = String.join ((words segment).map Text.capitalize)) := by
  have hend (p : String) : ofPath verb (p ++ "/") = ofPath verb p := by
    have happend := ofPath_append verb p ""
    rw [String.append_empty, String.append_empty, ofPath_slash_empty] at happend
    rw [happend, String.append_empty]
  refine ⟨ofPath_append verb path rest, ?_, hend path, fun h => ofPath_of_not_mem h verb,
    ofPath_intercalate verb path, fun segment h => ⟨?_, ofPath_plain h⟩⟩
  · -- the first of the two slashes stands at the end of what is in front of the second
    have htwo : path ++ "/" ++ "/" = path ++ "//" := String.append_assoc
    rw [← htwo, ofPath_append verb (path ++ "/"), hend, ofPath_append]
  · rintro x rfl
    exact ofPath_placeholder h

/-- The name of a path with a plain segment and a placeholder, put together from the two. -/
theorem ofPath_compositional_widgets :
    '/' ∉ "".toList ∧ '/' ∉ "shop".toList ∧ (∀ x, "shop" ≠ "\x7b" ++ x ++ "\x7d") ∧
      '/' ∉ "\x7bwidget_id\x7d".toList ∧
      ofPath "GET" "/shop/\x7bwidget_id\x7d" = "getShopByWidgetId" := by
  have hempty : '/' ∉ "".toList := by decide
  have hshop : '/' ∉ "shop".toList := by decide
  have hid : '/' ∉ "\x7bwidget_id\x7d".toList := by decide
  have hplain : ∀ x, "shop" ≠ "\x7b" ++ x ++ "\x7d" := by
    intro x hx
    have hlist := congrArg String.toList hx
    rw [toList_braces] at hlist
    exact absurd (List.cons.inj hlist).1 (by decide)
  have hshopWords : words "shop" = ["shop"] := by
    rw [words, wordsOf_eq_cutWords]
    decide
  have hidWords : words "widget_id" = ["widget", "id"] := by
    rw [words, wordsOf_eq_cutWords]
    decide
  obtain ⟨-, -, -, hverb, hsegments, hsegment⟩ := ofPath_compositional "GET" "" ""
  have hwhole := hsegments ["shop", "\x7bwidget_id\x7d"]
  have hfirst := (hsegment "shop" hshop).2 hplain
  have hlast := (hsegment "\x7bwidget_id\x7d" hid).1 "widget_id" rfl
  rw [hshopWords] at hfirst
  rw [hidWords] at hlast
  rw [List.map_cons, List.map_singleton, hfirst, hlast, hverb hempty] at hwhole
  refine ⟨hempty, hshop, hplain, hid, ?_⟩
  exact hwhole.trans (by decide)

end ApiOutline.Name
