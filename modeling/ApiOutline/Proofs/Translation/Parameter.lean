/-
A parameter in both dialects.

One dialect is told where a parameter travels by a field that is nothing to the outline, so it stays
behind among what else was said, and the place is put into the node under the name it has in the
outline. The other dialect has it under that name from the start. All the rest is derived in the
same way, from fields and into fields that are neither of the two. So while the node is filled the
two differ in these fields only (`Unplaced`), at the end they agree in the place as well, and the
records differ by the field that stayed behind (`parameterOf_asPaths`).
-/
import ApiOutline.Proofs.Extras
import ApiOutline.Proofs.Outcome
import ApiOutline.Proofs.Reading
import ApiOutline.Proofs.Translation.Basic
import ApiOutline.Proofs.Value.Entries

set_option autoImplicit false

namespace ApiOutline

namespace Decoding

open Outcome Value
open FieldName (keeps)

/-! ## Nodes that are being filled -/

/-- Is a key neither of the two under which a dialect has the place? -/
def isShared (key : Scalar) : Bool :=
  key != .str "in" && key != .str "paramType"

/-- Two nodes that say the same but for the place. -/
structure SamePart (a b : Value.Entries) : Prop where
  rest : a.filter (isShared ·.1) = b.filter (isShared ·.1)
  without : ∀ e ∈ b, e.1 ≠ .str "paramType"

/-- Nodes of which only the second has the place in it so far. -/
structure Unplaced (place : Value) (a b : Value.Entries) : Prop extends SamePart a b where
  before : lookup (.str "in") a = none
  after : lookup (.str "in") b = some place

/-- Nodes that both have the place in them. -/
structure Placed (a b : Value.Entries) : Prop extends SamePart a b where
  place : lookup (.str "in") a = lookup (.str "in") b

/-- Under any name but the two for the place the nodes have the same. -/
theorem SamePart.lookup_eq {a b : Value.Entries} (h : SamePart a b) {name : String}
    (hname : isShared (.str name) = true) : lookup (.str name) a = lookup (.str name) b := by
  rw [← lookup_filter isShared hname a, ← lookup_filter isShared hname b, h.rest]

theorem SamePart.get_eq {a b : Value.Entries} (h : SamePart a b) {name : String}
    (hname : isShared (.str name) = true) : a.get name = b.get name := by
  rw [Value.Entries.get, Value.Entries.get, h.lookup_eq hname]

/-- Setting the same value under such a name in both keeps it so. No key of the listing's dialect
comes in. -/
theorem SamePart.set {a b : Value.Entries} (h : SamePart a b) {name : String}
    (hname : isShared (.str name) = true) (v : Value) : SamePart (a.set name v) (b.set name v) := by
  constructor
  · rw [Value.Entries.set, Value.Entries.set, filter_put_of_kept isShared hname,
      filter_put_of_kept isShared hname, h.rest]
  · intro e he
    rcases key_of_mem_put he with hkey | ⟨f, hf, hkey⟩
    · rw [hkey]
      rintro heq
      rw [heq] at hname
      exact absurd hname (by decide)
    · rw [hkey]
      exact h.without f hf

/-- A value set under such a name leaves the place where it was. -/
theorem lookup_in_set {es : Value.Entries} {name : String} (hname : isShared (.str name) = true)
    (v : Value) : lookup (.str "in") (es.set name v) = lookup (.str "in") es := by
  rw [Value.Entries.set, lookup_put, if_neg]
  rintro rfl
  exact absurd hname (by decide)

/-- Until the place is put in, the nodes are filled alike and stay without and with it. -/
theorem Unplaced.set {place : Value} {a b : Value.Entries} (h : Unplaced place a b) {name : String}
    (hname : isShared (.str name) = true) (v : Value) :
    Unplaced place (a.set name v) (b.set name v) := by
  refine ⟨h.toSamePart.set hname v, ?_, ?_⟩
  · rw [lookup_in_set hname, h.before]
  · rw [lookup_in_set hname, h.after]

/-- Once both have the place, they are filled alike and keep it. -/
theorem Placed.set {a b : Value.Entries} (h : Placed a b) {name : String}
    (hname : isShared (.str name) = true) (v : Value) : Placed (a.set name v) (b.set name v) := by
  refine ⟨h.toSamePart.set hname v, ?_⟩
  rw [lookup_in_set hname, lookup_in_set hname, h.place]

/-- The place is put into the node that does not have it yet. -/
theorem Unplaced.setNew {place : Value} {a b : Value.Entries} (h : Unplaced place a b) :
    Placed (a.setNew "in" place) (b.setNew "in" place) := by
  have ha : a.setNew "in" place = a.set "in" place := by
    rw [Value.Entries.setNew, h.before]
  have hb : b.setNew "in" place = b := by
    rw [Value.Entries.setNew, h.after]
  -- only the first changes, and only under a key that is not compared
  rw [ha, hb]
  refine ⟨⟨?_, h.without⟩, ?_⟩
  · rw [Value.Entries.set, filter_put_of_dropped isShared (by decide), h.rest]
  · rw [Value.Entries.set, lookup_put, if_pos rfl, h.after]

/-! ## The record of a node -/

/-- Elements that contribute nothing can be left out. -/
theorem flatMap_filter {α β : Type} {p : α → Bool} {f : α → List β} {xs : List α}
    (h : ∀ x ∈ xs, p x = false → f x = []) : (xs.filter p).flatMap f = xs.flatMap f := by
  induction xs with
  | nil => rfl
  | cons x xs ih =>
    have hrest := ih fun y hy => h y (List.mem_cons_of_mem x hy)
    rw [List.filter_cons, List.flatMap_cons]
    split
    · rw [List.flatMap_cons, hrest]
    · next hx =>
      rw [h x List.mem_cons_self (Bool.not_eq_true _ ▸ hx), hrest, List.nil_append]

/-- The place has a field of its own. -/
theorem keeps_in (es : Value.Entries) : keeps Parameter.fieldNames es (.str "in") = false :=
  FieldName.keeps_shown (show ⟨"in", "location"⟩ ∈ Parameter.fieldNames by decide)

section Record

variable {a b : Value.Entries}

/-- Nodes that both have the place agree under every name but the one that stays behind. -/
theorem Placed.lookup_of_ne (h : Placed a b) {name : String} (hname : name ≠ "paramType") :
    lookup (.str name) a = lookup (.str name) b := by
  by_cases hin : name = "in"
  · rw [hin, h.place]
  · refine h.lookup_eq ?_
    rw [isShared, Bool.and_eq_true, bne_iff_ne, bne_iff_ne, ne_eq, Scalar.str.injEq, ne_eq,
      Scalar.str.injEq]
    exact ⟨hin, hname⟩

/-- So what counts as left over is the same for both, as no field of the outline has that name. -/
theorem Placed.keeps_eq (h : Placed a b) (key : Scalar) :
    keeps Parameter.fieldNames a key = keeps Parameter.fieldNames b key := by
  cases key with
  | str s =>
    have hshown : ∀ f ∈ Parameter.fieldNames, f.shown ≠ "paramType" := by decide
    rw [keeps, keeps, FieldName.fills, FieldName.fills]
    refine congrArg not (Bool.eq_iff_iff.2 ?_)
    rw [List.any_eq_true, List.any_eq_true]
    refine exists_congr fun f => and_congr_right fun hf => ?_
    rw [h.lookup_of_ne (hshown f hf)]
  | _ => rfl

/-- What is left over of the one node is what is left over of the other, without the place. -/
theorem Placed.filter_keeps (h : Placed a b) :
    b.filter (keeps Parameter.fieldNames b ·.1) =
      (a.filter (keeps Parameter.fieldNames a ·.1)).filter (·.1 != .str "paramType") := by
  -- both sides are brought to one filter of what the nodes have in common
  have hb : b.filter (keeps Parameter.fieldNames b ·.1) =
      (b.filter (isShared ·.1)).filter (keeps Parameter.fieldNames a ·.1) := by
    rw [List.filter_filter]
    refine List.filter_congr fun e he => ?_
    rw [h.keeps_eq, isShared, bne_iff_ne.2 (h.without e he), Bool.and_true]
    by_cases hin : e.1 = .str "in"
    · rw [hin, keeps_in, Bool.false_and]
    · rw [bne_iff_ne.2 hin, Bool.and_true]
  have ha : (a.filter (keeps Parameter.fieldNames a ·.1)).filter (·.1 != .str "paramType") =
      (a.filter (isShared ·.1)).filter (keeps Parameter.fieldNames a ·.1) := by
    rw [List.filter_filter, List.filter_filter]
    refine List.filter_congr fun e _ => ?_
    rw [isShared]
    by_cases hin : e.1 = .str "in"
    · rw [hin, keeps_in, Bool.false_and, Bool.and_false]
    · rw [bne_iff_ne.2 hin, Bool.true_and, Bool.and_comm]
  rw [hb, ha, h.rest]

/-- What stayed behind is read as a field of its own, and nothing is wrong with it. The key of the
place in a listing names no field, so the place is among the extras of one node and missing from
those of the other. -/
theorem Placed.extras (h : Placed a b) :
    FieldName.extras Parameter.fieldNames b =
      ⟨(FieldName.extras Parameter.fieldNames a).value.filter (·.1 != "paramType"),
        (FieldName.extras Parameter.fieldNames a).problems⟩ := by
  have hkey : ∀ e : Scalar × Value,
      (e.1 != .str "paramType") = ((extraOf e).value.1 != "paramType") := by
    rintro ⟨key, v⟩
    cases key with
    | str s =>
      change (Scalar.str s != .str "paramType") = (s != "paramType")
      by_cases hs : s = "paramType"
      · rw [hs]
        rfl
      · rw [bne_iff_ne.2 hs, bne_iff_ne.2 (mt Scalar.str.inj hs)]
    | _ => rfl
  -- a text is always a key that can be read, so leaving the place out hides no problem
  rw [FieldName.extras_eq, FieldName.extras_eq, h.filter_keeps]
  refine Reading.ext_of_eq ?_ ?_
  · rw [Reading.all_value, Reading.all_value, List.map_map, List.map_map, List.filter_map]
    exact congrArg (List.map _) (List.filter_congr fun e _ => hkey e)
  · rw [Reading.all_problems, Reading.all_problems, List.flatMap_map, List.flatMap_map]
    refine flatMap_filter fun e _ hdropped => ?_
    rw [bne_eq_false_iff_eq] at hdropped
    rw [extraOf, hdropped]
    rfl

/-- **The records of two nodes that agree in the place differ by what stayed behind.** -/
theorem Placed.ofEntries_eq (h : Placed a b) :
    Parameter.ofEntries b = (Parameter.ofEntries a).map Parameter.withoutPlace := by
  have hfind : ∀ f : FieldName, f.shown ≠ "paramType" → f.own ≠ "paramType" →
      f.find? b = f.find? a := by
    intro f hshown hown
    rw [FieldName.find?, FieldName.find?, h.lookup_of_ne hshown, h.lookup_of_ne hown]
  rw [Parameter.ofEntries, Parameter.ofEntries, Reading.record_map]
  simp (disch := decide) only [FieldName.text, FieldName.flag, FieldName.text?, FieldName.any,
    hfind, h.extras]
  rfl

end Record

/-! ## What is derived for it -/

section Derived

variable {place : Value} {a b written written' : Value.Entries}

/-- The name is derived alike, and fails alike. -/
theorem Unplaced.withCamelCase (h : Unplaced place a b) :
    Both (Unplaced place) (withCamelCase a) (withCamelCase b) := by
  rw [Decoding.withCamelCase, Decoding.withCamelCase, h.get_eq (by decide)]
  exact both_bind _ fun name => h.set (by decide) _

/-- The sole value comes from the enumeration, which both have as it was written. -/
theorem Unplaced.withSingleton (h : Unplaced place a b) (hw : SamePart written written') :
    Both (Unplaced place) (withSingleton written a) (withSingleton written' b) := by
  rw [Decoding.withSingleton, Decoding.withSingleton, hw.get_eq (by decide)]
  split
  · refine both_bind _ fun size => ?_
    split
    · exact both_bind _ fun only => (h.set (by decide) _).set (by decide) _
    · exact h
  · exact h

/-- The place is put where it belongs, whichever of the five it is. -/
theorem Unplaced.withLocation {name : String}
    (hname : name ∈ ["body", "path", "query", "header", "form"])
    (h : Unplaced (placeAsPaths (.str name)) a b) :
    Both Placed (withLocation .listing (.str name) a)
      (withLocation .paths (placeAsPaths (.str name)) b) := by
  simp only [List.mem_cons, List.not_mem_nil, or_false] at hname
  -- one place after the other: its switch is set, and then the place is put in
  rcases hname with rfl | rfl | rfl | rfl | rfl
  · have hflag : isShared (.str "isBodyParameter") = true := by decide
    exact (h.set hflag (.bool true)).setNew
  · have hflag : isShared (.str "isPathParameter") = true := by decide
    exact (h.set hflag (.bool true)).setNew
  · have hflag : isShared (.str "isQueryParameter") = true := by decide
    exact (h.set hflag (.bool true)).setNew
  · have hflag : isShared (.str "isHeaderParameter") = true := by decide
    exact (h.set hflag (.bool true)).setNew
  · have hflag : isShared (.str "isFormParameter") = true := by decide
    exact (h.set hflag (.bool true)).setNew

/-- Whether a parameter travels in the query both dialects say alike. -/
theorem isText_query_placeAsPaths {name : String}
    (hname : name ∈ ["body", "path", "query", "header", "form"]) :
    isText "query" (placeAsPaths (.str name)) = isText "query" (.str name) := by
  simp only [List.mem_cons, List.not_mem_nil, or_false] at hname
  rcases hname with rfl | rfl | rfl | rfl | rfl
  · rfl
  · rfl
  · rfl
  · rfl
  · rfl

/-- Whether a pattern is put in depends on the place, about which both say the same in their own
words. -/
theorem Placed.withPattern {name : String}
    (hname : name ∈ ["body", "path", "query", "header", "form"]) (h : Placed a b)
    (hw : SamePart written written') :
    Placed (withPattern (.str name) written a)
      (withPattern (placeAsPaths (.str name)) written' b) := by
  rw [Decoding.withPattern, Decoding.withPattern, isText_query_placeAsPaths hname,
    hw.get_eq (by decide)]
  split
  · exact (h.set (by decide) _).set (by decide) _
  · exact h

/-- Whether the parameter is required depends on a field that both have. -/
theorem Placed.withRequired (h : Placed a b) (hw : SamePart written written') :
    Placed (withRequired written a) (withRequired written' b) := by
  rw [Decoding.withRequired, Decoding.withRequired, hw.get_eq (by decide)]
  exact (h.set (by decide) _).set (by decide) _

/-- A node is filled in the same way in both dialects. -/
theorem Unplaced.classified {name : String}
    (hname : name ∈ ["body", "path", "query", "header", "form"])
    (h : Unplaced (placeAsPaths (.str name)) a b) :
    Both Placed (classified .listing (.str name) a)
      (classified .paths (placeAsPaths (.str name)) b) := by
  refine h.withCamelCase.bind fun a₁ b₁ h₁ => ?_
  refine (h₁.withSingleton h.toSamePart).bind fun a₂ b₂ h₂ => ?_
  refine (h₂.withLocation hname).bind fun a₃ b₃ h₃ => ?_
  exact (h₃.withPattern hname h.toSamePart).withRequired h.toSamePart

end Derived

/-! ## The parameter -/

/-- A translation changes nothing in a node but the entry for the place. -/
theorem parameterEntryAsPaths_of_ne {e : Scalar × Value} (h : e.1 ≠ .str "paramType") :
    parameterEntryAsPaths e = e := by
  rw [parameterEntryAsPaths]
  rintro v rfl
  exact h rfl

/-- The entry for the place goes under its other name, with the word of the other dialect. -/
theorem parameterEntryAsPaths_of_eq {e : Scalar × Value} (h : e.1 = .str "paramType") :
    parameterEntryAsPaths e = (.str "in", placeAsPaths e.2) := by
  obtain ⟨key, v⟩ := e
  obtain rfl : key = .str "paramType" := h
  rw [parameterEntryAsPaths]

/-- Where the place is found after a translation. -/
theorem lookup_in_asPaths {es : Value.Entries} (hin : ∀ e ∈ es, e.1 ≠ .str "in") :
    lookup (.str "in") (es.map parameterEntryAsPaths) =
      (lookup (.str "paramType") es).map placeAsPaths := by
  rw [← List.filterMap_eq_map]
  refine lookup_filterMap (fun v => congrArg some (parameterEntryAsPaths_of_eq rfl)) ?_
  intro e he e' hsome hkey
  -- what is not renamed keeps its key, and nothing stood under the new name before
  by_contra hne
  rw [Function.comp_apply, parameterEntryAsPaths_of_ne hne] at hsome
  exact hin e he (Option.some.inj hsome ▸ hkey)

/-- A node and its translation are the same but for the place. -/
theorem unplaced_asPaths {es : Value.Entries} {place : Value}
    (hplace : lookup (.str "paramType") es = some place) (hin : lookup (.str "in") es = none) :
    Unplaced (placeAsPaths place) es (es.map parameterEntryAsPaths) := by
  refine ⟨⟨?_, ?_⟩, hin, ?_⟩
  · -- entry by entry; one that is renamed is compared on neither side
    clear hplace hin
    induction es with
    | nil => rfl
    | cons e rest ih =>
      rw [List.map_cons, List.filter_cons, List.filter_cons, ih]
      by_cases he : e.1 = .str "paramType"
      · rw [parameterEntryAsPaths_of_eq he, he]
        rfl
      · rw [parameterEntryAsPaths_of_ne he]
  · intro e he
    obtain ⟨f, _, rfl⟩ := List.mem_map.1 he
    by_cases hf : f.1 = .str "paramType"
    · rw [parameterEntryAsPaths_of_eq hf]
      exact mt Scalar.str.inj (by decide)
    · rw [parameterEntryAsPaths_of_ne hf]
      exact hf
  · rw [lookup_in_asPaths (ne_of_lookup_eq_none hin), hplace, Option.map_some]

/-- A translated node is the node with its entries translated. -/
theorem entries_parameterAsPaths {node : Value} {es : Value.Entries} (h : node.entries = .ok es) :
    node.parameterAsPaths.entries = .ok (es.map parameterEntryAsPaths) := by
  rw [parameterAsPaths, entries_eq_ok_iff.1 h]
  rfl

/-- A place has no parts in either dialect, so the copy of a translation needs the same room. -/
theorem copyCalls_parameterEntryAsPaths (e : Scalar × Value) :
    (parameterEntryAsPaths e).2.copyCalls = e.2.copyCalls := by
  unfold parameterEntryAsPaths
  split
  · next place =>
    unfold placeAsPaths
    split
    · rfl
    · rfl
  · rfl

/-- **A node and its translation can be copied or cannot, alike.** The places are texts on both
sides, and all else stands where it stood. -/
theorem checkCopy_parameterAsPaths {node : Value} {es : Value.Entries}
    (h : node.entries = .ok es) : node.parameterAsPaths.checkCopy = node.checkCopy := by
  have hentries : ∀ es : Value.Entries,
      copyCallsOfEntries (es.map parameterEntryAsPaths) = copyCallsOfEntries es := by
    intro es
    induction es with
    | nil => rfl
    | cons e es ih =>
      rw [List.map_cons, copyCallsOfEntries, copyCallsOfEntries, ih,
        copyCalls_parameterEntryAsPaths]
  rw [checkCopy, checkCopy, parameterAsPaths, entries_eq_ok_iff.1 h]
  simp only [opened, copyCalls, hentries]

/-- **A parameter and its translation have the same record, but for what stayed behind.** -/
theorem parameterOf_asPaths {node : Value} (h : PlainParameter node) :
    parameterOf .paths node.parameterAsPaths =
      (parameterOf .listing node).map Parameter.withoutPlace := by
  obtain ⟨es, hes, ⟨name, hname, hplace⟩, hnone⟩ := h
  have h := unplaced_asPaths hplace (hnone "in" (by decide))
  have hes' := entries_parameterAsPaths hes
  refine both_map_iff.1 ?_
  rw [parameterOf, parameterOf]
  simp only [Dialect.locationField, field_of_entries hes, field_of_entries hes', hes, hes', ok_bind,
    Entries.get_of_lookup hplace, Entries.get_of_lookup h.after, checkCopy_parameterAsPaths hes]
  refine both_bind _ fun _ => ?_
  exact (h.classified hname).bind fun a b hab => both_map_iff.2 hab.ofEntries_eq

end Decoding

end ApiOutline
