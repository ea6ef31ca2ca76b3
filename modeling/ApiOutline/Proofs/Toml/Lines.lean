/-
Entries on a line each are read back.

A line is a name, an equals sign and a value. A name of letters, digits, underscores and hyphens is
written bare, and nothing in it ends a key or opens a quote (`Bare`), so that the key is the name up
to the blank behind it (`readKey_bare`). A value that is a text or a truth is written on the same
line (`OneLine`), and its reader stops at the break (`OneLine.readValue_valueText`). What is null is
not written at all.

From this a document of such lines is read line by line, and each line adds one entry behind those
before it (`readLines_lineTexts`), because no name comes twice. What is read is what was written
without the nulls (`parse_text`).
-/
import ApiOutline.Proofs.Toml.Quoted
import ApiOutline.Proofs.Value.Entries
import ApiOutline.Toml.Reader
import ApiOutline.Toml.Writer

set_option autoImplicit false

namespace ApiOutline.Toml

open Value (Entries lookup put lookup_eq_none_of_not_mem put_of_not_mem)

/-! ## Names -/

/-- A character of bare names: it ends no key, opens no quote and begins no line of another kind. -/
structure Bare (c : Char) : Prop where
  quote : quote? c = none
  blank : Text.isBlank c = false
  point : c ≠ '.'
  equals : c ≠ '='
  feed : c ≠ '\n'
  return_ : c ≠ '\r'
  hash : c ≠ '#'
  bracket : c ≠ '['
  word : (Text.isAlphanumeric c || c == '_' || c == '-') = true

/-- The characters that names are written with bare are bare to the reader. They are all among the
first of the table, so they can be gone through. -/
theorem bare_of_isNameChar {c : Char} (h : isNameChar c = true) : Bare c := by
  have hall : ∀ n < 128, isNameChar (Char.ofNat n) = true →
      quote? (Char.ofNat n) = none ∧ Text.isBlank (Char.ofNat n) = false ∧
      Char.ofNat n ≠ '.' ∧ Char.ofNat n ≠ '=' ∧ Char.ofNat n ≠ '\n' ∧ Char.ofNat n ≠ '\r' ∧
      Char.ofNat n ≠ '#' ∧ Char.ofNat n ≠ '[' ∧
      (Text.isAlphanumeric (Char.ofNat n) || Char.ofNat n == '_' ||
        Char.ofNat n == '-') = true := by
    decide +kernel
  -- a letter, a digit or one of the two signs, each of them early in the table
  have hascii : c.toNat < 128 := by
    change (((decide (c.val ≥ 'A'.val ∧ c.val ≤ 'Z'.val) ||
      (decide (c.val ≥ 'a'.val) && decide (c.val ≤ 'z'.val))) ||
      (decide (c.val ≥ '0'.val) && decide (c.val ≤ '9'.val))) || c == '_' || c == '-') = true at h
    simp only [Bool.or_eq_true, Bool.and_eq_true, decide_eq_true_eq, beq_iff_eq] at h
    rcases h with (((⟨-, h⟩ | ⟨-, h⟩) | ⟨-, h⟩) | rfl) | rfl
    · exact Nat.lt_of_le_of_lt (UInt32.le_iff_toNat_le.1 h) (by decide)
    · exact Nat.lt_of_le_of_lt (UInt32.le_iff_toNat_le.1 h) (by decide)
    · exact Nat.lt_of_le_of_lt (UInt32.le_iff_toNat_le.1 h) (by decide)
    · decide
    · decide
  have hchar := hall c.toNat hascii
  rw [Char.ofNat_toNat] at hchar
  obtain ⟨h1, h2, h3, h4, h5, h6, h7, h8, h9⟩ := hchar h
  exact ⟨h1, h2, h3, h4, h5, h6, h7, h8, h9⟩

/-- A name that is written bare. -/
structure BareName (name : String) : Prop where
  nonempty : name ≠ ""
  chars : name.toList.all isNameChar = true

namespace BareName

variable {name : String} (h : BareName name)

include h

/-- So every character of such a name is. -/
theorem bare {c : Char} (hc : c ∈ name.toList) : Bare c :=
  bare_of_isNameChar (List.all_eq_true.1 h.chars c hc)

theorem exists_cons : ∃ c cs, name.toList = c :: cs :=
  List.exists_cons_of_ne_nil fun hnil => h.nonempty (String.toList_eq_nil_iff.1 hnil)

/-- A bare name is written as it is, without quotes. -/
theorem nameText_eq : nameText (.str name) = name := by
  have hnonempty : (name != "") = true := bne_iff_ne.2 h.nonempty
  unfold nameText
  dsimp only [Scalar.text]
  rw [hnonempty, h.chars, Bool.and_self, if_pos rfl]

end BareName

/-- A bare name goes on to the blank before the equals sign. -/
theorem keyFrom_bare {cs : List Char} (h : ∀ c ∈ cs, Bare c) (done rest : List Char) :
    keyFrom .bare false done (cs ++ ' ' :: '=' :: rest) =
      some (done.reverse ++ (cs ++ [' ']), rest) := by
  induction cs generalizing done with
  | nil =>
    change some ((' ' :: done).reverse, rest) = _
    rw [List.reverse_cons, List.nil_append]
  | cons c cs ih =>
    have hc := h c List.mem_cons_self
    rw [List.cons_append, keyFrom, if_neg (by simpa using hc.feed)]
    dsimp only
    rw [hc.blank, if_neg Bool.false_ne_true, if_neg (by simpa using hc.point), if_pos hc.word,
      ih (fun c hc => h c (List.mem_cons_of_mem _ hc)), List.reverse_cons, List.append_assoc]
    rfl

/-- **The key of a line is the name on it**, with the blank in front of the equals sign still
behind it. -/
theorem readKey_bare {name : String} (h : BareName name) (rest : List Char) :
    readKey (name.toList ++ ' ' :: '=' :: rest) = some (name.toList ++ [' '], rest) := by
  obtain ⟨c, cs, hcs⟩ := h.exists_cons
  have hbare : ∀ d ∈ c :: cs, Bare d := fun d hd => h.bare (hcs ▸ hd)
  have hc := hbare c List.mem_cons_self
  rw [hcs, List.cons_append, readKey, if_neg (by simpa using hc.equals), hc.quote,
    if_neg (by decide), keyFrom_bare fun d hd => hbare d (List.mem_cons_of_mem c hd)]
  rfl

/-- Blanks behind a name that has none are no part of it. -/
theorem strip_append_blank {cs : List Char} (h : ∀ c ∈ cs, Text.isBlank c = false) (hcs : cs ≠ []) :
    Text.strip Text.isBlank (cs ++ [' ']) = cs := by
  have hfront : (cs ++ [' ']).dropWhile Text.isBlank = cs ++ [' '] := by
    obtain ⟨c, rest, rfl⟩ := List.exists_cons_of_ne_nil hcs
    rw [List.cons_append, List.dropWhile_cons_of_neg]
    rw [h c List.mem_cons_self]
    exact Bool.false_ne_true
  have hback : cs.reverse.dropWhile Text.isBlank = cs.reverse := by
    obtain ⟨c, rest, hrest⟩ := List.exists_cons_of_ne_nil (List.reverse_ne_nil_iff.2 hcs)
    rw [hrest, List.dropWhile_cons_of_neg]
    rw [h c (List.mem_reverse.1 (hrest ▸ List.mem_cons_self))]
    exact Bool.false_ne_true
  rw [Text.strip, hfront, Text.dropEnd, List.reverse_append, List.reverse_singleton,
    List.singleton_append, List.dropWhile_cons_of_pos (by decide), hback, List.reverse_reverse]

/-- A bare name is one name, as there is no point in it. -/
theorem keyNames_bare {name : String} (h : BareName name) :
    keyNames (name.toList ++ [' ']) = some [name] := by
  have hpoint : name.toList.contains '.' = false := by
    rw [List.contains_eq_mem, decide_eq_false_iff_not]
    exact fun hmem => (h.bare hmem).point rfl
  obtain ⟨c, cs, hcs⟩ := h.exists_cons
  have hc := h.bare (hcs ▸ List.mem_cons_self : c ∈ name.toList)
  unfold keyNames
  dsimp only
  rw [strip_append_blank (fun c hc => (h.bare hc).blank) (hcs ▸ List.cons_ne_nil c cs), hpoint,
    if_neg Bool.false_ne_true]
  have hlast : ∃ last, name.toList.getLast? = some last := by
    rw [hcs, List.getLast?_cons]
    exact ⟨_, rfl⟩
  obtain ⟨last, hlast⟩ := hlast
  rw [hlast, hcs, List.head?_cons]
  dsimp only
  rw [hc.quote, if_neg (by simp), ← hcs, String.ofList_toList]

/-! ## Values -/

/-- Values that are read from the line that they are written on. -/
inductive OneLine : Value → Prop where
  | text (s : String) : OneLine (.str s)
  | truth (b : Bool) : OneLine (.bool b)

namespace OneLine

variable {v : Value} (h : OneLine v)

include h

/-- What is written on a line is not null, so the line is there. -/
theorem not_isNull : v.isNull = false := by
  cases h with
  | text s => rfl
  | truth b => rfl

/-- Nor is it a table, which would have a header of its own. -/
theorem not_needsHeader : needsHeader v = false := by
  cases h with
  | text s => rfl
  | truth b => rfl

/-- A value on a line has no carriage return in it. -/
theorem carriageReturn_not_mem : '\r' ∉ (valueText v).toList := by
  cases h with
  | text s => exact carriageReturn_not_mem_quoted s
  | truth b => cases b <;> decide

/-- No blank stands in front of a value. -/
theorem skipGap_valueText (rest : List Char) :
    skipGap false false (' ' :: ((valueText v).toList ++ rest)) = (valueText v).toList ++ rest := by
  cases h with
  | text s =>
    change skipGap false false (' ' :: ((quoted s).toList ++ rest)) = (quoted s).toList ++ rest
    rw [toList_quoted]
    rfl
  | truth b => cases b <;> rfl

/-- **The reader of a value stops at the end of the line.** -/
theorem readValue_valueText (fuel : Nat) (rest : List Char) :
    ∃ kind, readValue (fuel + 1) false .line ((valueText v).toList ++ '\n' :: rest) =
      some ((kind, v), '\n' :: rest) := by
  cases h with
  | text s =>
    refine ⟨.text, ?_⟩
    have hread : readText .double ((quoted s).toList ++ '\n' :: rest) = some (s, '\n' :: rest) :=
      readText_quoted s (by rw [List.head?_cons]; decide)
    change readValue (fuel + 1) false .line ((quoted s).toList ++ '\n' :: rest) = _
    rw [toList_quoted] at hread ⊢
    rw [List.cons_append] at hread ⊢
    change (readText .double _).map _ = _
    rw [hread]
    rfl
  | truth b =>
    refine ⟨.truth, ?_⟩
    cases b <;> rfl

end OneLine

/-! ## Lines -/

/-- An entry that is written on a line, or not at all. -/
structure Line (e : Scalar × Value) : Prop where
  key : ∃ name, e.1 = .str name ∧ BareName name
  value : e.2 = .null ∨ OneLine e.2

/-- The value of a line is a scalar, so it is not written anywhere else in the document. -/
theorem Line.exists_scalar {k : Scalar} {v : Value} (h : Line (k, v)) : ∃ s, v = .scalar s := by
  rcases h.value with hv | hv
  · exact ⟨.null, hv⟩
  · cases hv with
    | text s => exact ⟨.str s, rfl⟩
    | truth b => exact ⟨.bool b, rfl⟩

/-- A line with an entry adds that entry, and the reader is at the next line. The name ends at the
blank in front of the equals sign, and the value ends at the break. -/
theorem readEntry_line {d : Draft} {name : String} {v : Value} (hname : BareName name)
    (hv : OneLine v) (hplace : d.place = []) (hnew : ∀ e ∈ d.entries, e.1 ≠ .str name)
    (rest : List Char) :
    readEntry d (name.toList ++ ' ' :: '=' :: ' ' :: ((valueText v).toList ++ '\n' :: rest)) =
      some ({ d with entries := d.entries ++ [(.str name, v)] }, rest) := by
  have hput : d.put [name] v = some { d with entries := d.entries ++ [(.str name, v)] } := by
    rw [Draft.put, hplace, Draft.changeAt, Draft.assign, lookup_eq_none_of_not_mem hnew,
      if_neg (by simp), Value.Entries.set, put_of_not_mem hnew, Option.map_some]
  obtain ⟨kind, hread⟩ := hv.readValue_valueText
    (' ' :: ((valueText v).toList ++ '\n' :: rest)).length rest
  unfold readEntry
  rw [readKey_bare hname, Option.bind_eq_bind, Option.bind_some]
  dsimp only
  rw [keyNames_bare hname, Option.bind_eq_bind, Option.bind_some, hv.skipGap_valueText, hread]
  -- a blank stands in front of the value and a break behind it
  change ((d.put [name] v).bind fun d => (nextLine? ('\n' :: rest)).bind fun cs => some (d, cs)) = _
  rw [hput]
  rfl

/-- A line that begins with a bare character is an entry: it is not empty, no comment and no
header. -/
theorem readLines_bare {c : Char} (hc : Bare c) (fuel : Nat) (d : Draft) (cs : List Char) :
    readLines (fuel + 1) d (c :: cs) =
      (readEntry d (c :: cs)).bind fun (d, rest) => readLines fuel d rest := by
  have hblank : (c == ' ' || c == '\t') = false := by
    have hspace : c ≠ ' ' := fun h => absurd (h ▸ hc.blank) (by decide)
    have htab : c ≠ '\t' := fun h => absurd (h ▸ hc.blank) (by decide)
    rw [beq_eq_false_iff_ne.2 hspace, beq_eq_false_iff_ne.2 htab, Bool.or_self]
  rw [readLines, List.dropWhile_cons_of_neg (by rw [hblank]; exact Bool.false_ne_true)]
  -- the line is none of the other kinds
  split
  · next h => exact nomatch h
  · next h => exact absurd (List.cons.inj h).1 hc.feed
  · next h => exact absurd (List.cons.inj h).1 hc.hash
  · next h => exact absurd (List.cons.inj h).1 hc.bracket
  · rfl

/-- An entry is written as its name, the sign, its value and a break, and the other lines follow.
-/
theorem toList_lineTexts_cons {e : Scalar × Value} {name : String} (hkey : e.1 = .str name)
    (hname : BareName name) (hv : OneLine e.2) (es : Entries) :
    (lineTexts (e :: es)).toList =
      name.toList ++
        ' ' :: '=' :: ' ' :: ((valueText e.2).toList ++ '\n' :: (lineTexts es).toList) := by
  obtain ⟨k, v⟩ := e
  obtain rfl := hkey
  rw [lineTexts, hv.not_isNull, hv.not_needsHeader, Bool.or_self, if_neg Bool.false_ne_true,
    hname.nameText_eq]
  simp only [String.toList_append, List.append_assoc]
  rfl

/-- Of an entry without a value no line is written. -/
theorem lineTexts_cons_null {e : Scalar × Value} (hv : e.2 = .null) (es : Entries) :
    lineTexts (e :: es) = lineTexts es := by
  obtain ⟨k, v⟩ := e
  obtain rfl := hv
  rw [lineTexts]
  exact String.empty_append

/-- **Each line adds its entry behind those before it.** The induction is on the entries still to
be read, with those that were read in the draft. An entry without a value has no line, and since
no name comes twice, a new one goes to the end. -/
theorem readLines_lineTexts {es : Entries} (hes : ∀ e ∈ es, Line e)
    (hkeys : (es.map Prod.fst).Nodup) {d : Draft} (hplace : d.place = [])
    (hnew : ∀ e ∈ es, ∀ f ∈ d.entries, f.1 ≠ e.1) {fuel : Nat}
    (hfuel : (lineTexts es).toList.length < fuel) :
    readLines fuel d (lineTexts es).toList =
      some { d with entries := d.entries ++ es.filter fun e => !e.2.isNull } := by
  induction es generalizing d fuel with
  | nil =>
    obtain ⟨fuel, rfl⟩ := Nat.exists_eq_add_one_of_ne_zero (Nat.ne_of_gt (Nat.zero_lt_of_lt hfuel))
    rw [List.filter_nil, List.append_nil]
    rfl
  | cons e es ih =>
    rw [List.map_cons, List.nodup_cons] at hkeys
    have hes' : ∀ f ∈ es, Line f := fun f hf => hes f (List.mem_cons_of_mem e hf)
    obtain ⟨⟨name, hkey, hname⟩, hv⟩ := hes e List.mem_cons_self
    rcases hv with hv | hv
    · rw [lineTexts_cons_null hv] at hfuel ⊢
      rw [ih hes' hkeys.2 hplace (fun f hf => hnew f (List.mem_cons_of_mem e hf)) hfuel,
        List.filter_cons_of_neg (by rw [hv]; decide)]
    -- the entry has a line, which takes some of the fuel
    · obtain ⟨c, cs, hcs⟩ := hname.exists_cons
      have hline := readEntry_line (v := e.2) hname hv hplace
        (fun f hf => hkey ▸ hnew e List.mem_cons_self f hf) (lineTexts es).toList
      rw [toList_lineTexts_cons hkey hname hv] at hfuel ⊢
      obtain ⟨fuel, rfl⟩ :=
        Nat.exists_eq_add_one_of_ne_zero (Nat.ne_of_gt (Nat.zero_lt_of_lt hfuel))
      have hrest : (lineTexts es).toList.length < fuel := by
        simp only [List.length_append, List.length_cons] at hfuel
        omega
      rw [hcs, List.cons_append] at hline ⊢
      rw [readLines_bare (hname.bare (hcs ▸ List.mem_cons_self)), hline, Option.bind_some]
      dsimp only
      -- the name that was just read does not come again
      have hnew' : ∀ f ∈ es, ∀ g ∈ d.entries ++ [(.str name, e.2)], g.1 ≠ f.1 := by
        intro f hf g hg
        rcases List.mem_append.1 hg with hg | hg
        · exact hnew f (List.mem_cons_of_mem e hf) g hg
        · rw [List.mem_singleton.1 hg, ← hkey]
          exact fun h => hkeys.1 (h ▸ List.mem_map_of_mem hf)
      rw [ih (d := { d with entries := d.entries ++ [(.str name, e.2)] }) hes' hkeys.2 hplace hnew'
        hrest, List.filter_cons_of_pos (by rw [hv.not_isNull]; rfl),
        List.append_assoc, List.singleton_append, ← hkey]

/-! ## Documents -/

section Document

variable {es : Entries} (hes : ∀ e ∈ es, Line e)

include hes

/-- A document of such entries has lines only, as neither lists nor tables are among them. -/
theorem text_eq_lineTexts : text es = lineTexts es := by
  have hno : listTexts "" es = "" ∧ sections "" es = [] := by
    induction es with
    | nil => exact ⟨by rw [listTexts], by rw [sections]⟩
    | cons e es ih =>
      obtain ⟨k, v⟩ := e
      obtain ⟨s, rfl⟩ := (hes _ List.mem_cons_self).exists_scalar
      rw [listTexts, sections]
      exact ih fun f hf => hes f (List.mem_cons_of_mem _ hf)
  rw [text, hno.1, hno.2, List.flatten_nil, List.foldl_nil, String.append_empty]

/-- **A document of lines is read back**, without what was null. -/
theorem parse_text (hkeys : (es.map Prod.fst).Nodup) :
    parse (text es) = some (es.filter fun e => !e.2.isNull) := by
  -- nothing has been read yet, and the fuel is more than there are characters
  have hread := readLines_lineTexts hes hkeys (d := .empty) rfl
    (fun _ _ f hf => absurd hf List.not_mem_nil) (Nat.lt_succ_self _)
  rw [text_eq_lineTexts hes, parse, hread]
  rfl

/-- The whole text has no carriage return in it, so it does not matter how the ends of its lines
are read. -/
theorem carriageReturn_not_mem_text : '\r' ∉ (text es).toList := by
  rw [text_eq_lineTexts hes]
  induction es with
  | nil => exact List.not_mem_nil
  | cons e es ih =>
    have hrest := ih fun f hf => hes f (List.mem_cons_of_mem e hf)
    obtain ⟨⟨name, hkey, hname⟩, hv⟩ := hes e List.mem_cons_self
    rcases hv with hv | hv
    · rw [lineTexts_cons_null hv]
      exact hrest
    · rw [toList_lineTexts_cons hkey hname hv]
      simp only [List.mem_append, List.mem_cons, not_or]
      refine ⟨fun h => (hname.bare h).return_ rfl, by decide, by decide, by decide,
        hv.carriageReturn_not_mem, by decide, hrest⟩

end Document

end ApiOutline.Toml
