/-
What is derived for a parameter.

The node of a parameter gains fields and is then read as a record. Which fields these are, and what
stands in them, can be told from the node as it is written: each step of the decoder looks at the
node as written and only puts something under names of its own. So a node with all that is derived
is the node with one list of values put under names (`derivation`), and what stands under a name in
the end is what was derived for it, or else what the node itself says there. The second half of that
sentence matters. A field that is derived for some nodes only is read from the others as they
stand, and a node may well have something there.

`parameterOf_eq_ok` is the interface of this module: a parameter is read from its node with the
derivation put into it. What is said about the fields of parameters starts from there.
-/
import ApiOutline.Decoding.Parameters
import ApiOutline.Proofs.Outcome
import ApiOutline.Proofs.Reading
import ApiOutline.Proofs.Value.Entries

set_option autoImplicit false

namespace ApiOutline

/-! ## Places -/

/-- The places in which a parameter can travel. -/
inductive Place where
  | path
  | query
  | header
  | form
  | body
  deriving DecidableEq, Repr

namespace Place

def all : List Place :=
  [.path, .query, .header, .form, .body]

/-- How a dialect says that a parameter travels there. -/
def spelling (d : Dialect) : Place → String
  | .path => "path"
  | .query => "query"
  | .header => "header"
  | .form => d.formLocation
  | .body => "body"

/-- How the outline says it. -/
def shown : Place → String
  | .form => "formData"
  | place => place.spelling .paths

/-- The switch of a parameter that travels there. -/
def switch : Place → FieldName
  | .path => ⟨"isPathParameter", "is_path_parameter"⟩
  | .query => ⟨"isQueryParameter", "is_query_parameter"⟩
  | .header => ⟨"isHeaderParameter", "is_header_parameter"⟩
  | .form => ⟨"isFormParameter", "is_form_parameter"⟩
  | .body => ⟨"isBodyParameter", "is_body_parameter"⟩

/-- Setting a switch never touches the name under which the place itself stands. -/
theorem switch_ne_in (place : Place) : place.switch.shown ≠ "in" := by
  cases place <;> decide

/-- Each place has a switch of its own, so setting one leaves the others as they were. -/
theorem switch_injective {place other : Place}
    (h : place.switch.shown = other.switch.shown) : place = other := by
  revert h
  cases place <;> cases other <;> decide

theorem mem_all (place : Place) : place ∈ all := by
  cases place <;> decide

/-- A dialect has a word of its own for each place. -/
theorem spelling_injective (d : Dialect) {place other : Place}
    (h : place.spelling d = other.spelling d) : place = other := by
  have hdifferent : ∀ d, ∀ a ∈ all, ∀ b ∈ all, a.spelling d = b.spelling d → a = b := by
    intro d
    cases d <;> decide
  exact hdifferent d place (mem_all place) other (mem_all other) h

/-- The place that a dialect means, if it has one of its words for a place. -/
def named? (d : Dialect) (location : Value) : Option Place :=
  all.find? fun place => Decoding.isText (place.spelling d) location

end Place

/-- Does the parameter travel there? -/
def Parameter.isIn (p : Parameter) : Place → Bool
  | .path => p.isPath
  | .query => p.isQuery
  | .header => p.isHeader
  | .form => p.isForm
  | .body => p.isBody

/-- What the record of a parameter has in its fields: what was read there without problems. -/
structure Parameter.ReadFrom (es : Value.Entries) (p : Parameter) : Prop where
  name : FieldName.text ⟨"name", "name"⟩ "" es = .of p.name
  camelCaseName : FieldName.text ⟨"camelCaseName", "camel_case_name"⟩ "" es = .of p.camelCaseName
  location : FieldName.text? ⟨"in", "location"⟩ es = .of p.location
  required : FieldName.flag ⟨"required", "required"⟩ es = .of p.required
  isIn : ∀ place : Place, place.switch.flag es = .of (p.isIn place)
  isSingleton : FieldName.flag ⟨"isSingleton", "is_singleton"⟩ es = .of p.isSingleton
  singleton : FieldName.any ⟨"singleton", "singleton"⟩ es = p.singleton
  isPattern : FieldName.flag ⟨"isPatternType", "is_pattern_type"⟩ es = .of p.isPattern
  pattern : FieldName.text? ⟨"pattern", "pattern"⟩ es = .of p.pattern
  cardinality : FieldName.text ⟨"cardinality", "cardinality"⟩ "?" es = .of p.cardinality
  extras : FieldName.extras Parameter.fieldNames es = .of p.extras

/-- A record that was handed out was read from its entries. All fields are read before the
problems are looked at, so there is a record only if none of the fields has a problem, and then
each was read as it is. -/
theorem Parameter.readFrom_of_ofEntries {es : Value.Entries} {p : Parameter}
    (h : Parameter.ofEntries es = .ok p) : p.ReadFrom es := by
  obtain ⟨hproblems, rfl⟩ := Reading.record_eq_ok_iff.1 h
  simp only [List.append_eq_nil_iff] at hproblems
  obtain ⟨⟨⟨⟨⟨⟨⟨⟨⟨⟨⟨⟨⟨hname, hcamelCaseName⟩, hlocation⟩, hrequired⟩, hpath⟩, hquery⟩, hheader⟩,
    hform⟩, hbody⟩, hisSingleton⟩, hisPattern⟩, hpattern⟩, hcardinality⟩, hextras⟩ := hproblems
  -- the five switches are one field each, and no problem was found in any of them
  have hisIn : ∀ place : Place, (place.switch.flag es).problems = [] := by
    intro place
    cases place with
    | path => exact hpath
    | query => exact hquery
    | header => exact hheader
    | form => exact hform
    | body => exact hbody
  constructor
  case isIn =>
    intro place
    have hread := Reading.eq_of_of_no_problems (hisIn place)
    cases place with
    | _ => exact hread
  case singleton => rfl
  case name => exact Reading.eq_of_of_no_problems hname
  case camelCaseName => exact Reading.eq_of_of_no_problems hcamelCaseName
  case location => exact Reading.eq_of_of_no_problems hlocation
  case required => exact Reading.eq_of_of_no_problems hrequired
  case isSingleton => exact Reading.eq_of_of_no_problems hisSingleton
  case isPattern => exact Reading.eq_of_of_no_problems hisPattern
  case pattern => exact Reading.eq_of_of_no_problems hpattern
  case cardinality => exact Reading.eq_of_of_no_problems hcardinality
  case extras => exact Reading.eq_of_of_no_problems hextras

namespace Decoding

open Outcome Value

/-- The comparison by which the decoder tells places apart holds for the text itself and for no
other value. -/
theorem isText_iff {s : String} {v : Value} : isText s v = true ↔ v = .str s := by
  unfold isText
  split
  · next t => rw [beq_iff_eq, Value.scalar.injEq, Scalar.str.injEq]
  · next hne => exact ⟨fun h => (nomatch h), fun h => (hne s h).elim⟩

end Decoding

/-- **A dialect means a place exactly by its word for it.** That there is one place at most comes
from the words being different. -/
theorem Place.named?_eq_some_iff {d : Dialect} {location : Value} {place : Place} :
    Place.named? d location = some place ↔ location = .str (place.spelling d) := by
  constructor
  · intro h
    have hfound := List.find?_some h
    exact Decoding.isText_iff.1 hfound
  · intro h
    cases hnamed : Place.named? d location with
    | none =>
      rw [Place.named?, List.find?_eq_none] at hnamed
      exact absurd (Decoding.isText_iff.2 h) (hnamed place (Place.mem_all place))
    -- whichever place is found is spelled the same, and so it is the same
    | some other =>
      have hother := List.find?_some hnamed
      have hspelling : Value.str (other.spelling d) = .str (place.spelling d) :=
        (Decoding.isText_iff.1 hother).symm.trans h
      injection hspelling with hspelling
      exact congrArg some (Place.spelling_injective d (Scalar.str.inj hspelling))

namespace Decoding

open Outcome Value

/-! ## The fields of a node -/

section Fields

variable (d : Dialect) (es : Value.Entries)

/-- The place that a node says its parameter travels in. -/
def placeOf? : Option Place :=
  Place.named? d (es.get d.locationField)

/-- The one value that a node enumerates, if it enumerates just one. -/
def soleValue? : Option Value :=
  match (es.get "enum").size, (es.get "enum").first with
  | .ok 1, .ok only => some only
  | _, _ => none

/-- The pattern that a node gives for names, if its parameter travels in the query. -/
def namePattern? : Option Value :=
  if placeOf? d es = some .query ∧ (es.get "x-name-pattern").truthy = true then
    some (es.get "x-name-pattern")
  else none

/-! ## What is put into it -/

/-- What the only value of a node adds to it. -/
def singletonPart : List (String × Value) :=
  match soleValue? es with
  | some only => [("isSingleton", .bool true), ("singleton", only)]
  | none => []

/-- The switch that is set for the place of a node. -/
def switchPart : List (String × Value) :=
  match placeOf? d es with
  | some place => [(place.switch.shown, .bool true)]
  | none => []

/-- The place of a node under the name that it has in the outline, where nothing stands there. -/
def locationPart : List (String × Value) :=
  match placeOf? d es with
  | some place => if (lookup (.str "in") es).isSome then [] else [("in", .str place.shown)]
  | none => []

/-- What a pattern for names adds to a node. -/
def patternPart : List (String × Value) :=
  match namePattern? d es with
  | some pattern => [("isPatternType", .bool true), ("pattern", pattern)]
  | none => []

/-- What is put into every node: whether its parameter is required. -/
def requiredPart : List (String × Value) :=
  [("required", .bool (es.get "required").truthy),
    ("cardinality", .str (if (es.get "required").truthy then "" else "?"))]

/-- All that is derived for a node, its name in camel case being given. -/
def derivation (camelCaseName : String) : List (String × Value) :=
  ("camelCaseName", .str camelCaseName) ::
    (singletonPart es ++ switchPart d es ++ locationPart d es ++ patternPart d es ++
      requiredPart es)

end Fields

/-! ## Step by step -/

/-- What counts as absent does not have just one element: it is empty, or it has no size at all.
So it makes no difference that the decoder asks an enumeration for its size only where there is
one. -/
theorem size_ne_one_of_not_truthy {v : Value} (h : v.truthy = false) : v.size ≠ .ok 1 := by
  intro hsize
  cases v with
  | scalar s =>
    cases s with
    | str s =>
      rw [eq_empty_of_not_truthy h] at hsize
      exact nomatch hsize
    | bytes bs =>
      cases bs with
      | nil => exact nomatch hsize
      | cons b rest => exact nomatch h
    | _ => exact nomatch hsize
  | list xs =>
    cases xs with
    | nil => exact nomatch hsize
    | cons x rest => exact nomatch h
  | tuple xs =>
    cases xs with
    | nil => exact nomatch hsize
    | cons x rest => exact nomatch h
  | set ms =>
    cases ms with
    | nil => exact nomatch hsize
    | cons m rest => exact nomatch h
  | object es =>
    cases es with
    | nil => exact nomatch hsize
    | cons e rest => exact nomatch h
  | again v => exact nomatch h

/-- A sole value is there if the enumeration has one element and that element can be taken out. -/
theorem soleValue?_eq_some_iff {es : Value.Entries} {only : Value} :
    soleValue? es = some only ↔
      (es.get "enum").size = .ok 1 ∧ (es.get "enum").first = .ok only := by
  unfold soleValue?
  split
  · next first hsize hfirst =>
    rw [hsize, hfirst, Option.some_inj, Except.ok.injEq, Except.ok.injEq, and_iff_right rfl]
  · next hne =>
    exact ⟨fun h => (nomatch h), fun h => (hne only h.1 h.2).elim⟩

/-- An enumeration of another size has no sole value, and neither has something that has no size.
-/
theorem soleValue?_of_size {es : Value.Entries} (h : (es.get "enum").size ≠ .ok 1) :
    soleValue? es = none := by
  unfold soleValue?
  split
  · next hsize _ => exact absurd hsize h
  · rfl

/-- The value that is taken for the only one is the sole value of the node. The decoder asks
whether there is an enumeration, then for its size, then for the first element; that comes to the
same as asking for size and element at once. -/
theorem withSingleton_eq_ok {es node node' : Value.Entries}
    (h : withSingleton es node = .ok node') : node' = node.assign (singletonPart es) := by
  rw [withSingleton] at h
  by_cases hpresent : (es.get "enum").truthy = true
  · rw [if_pos hpresent] at h
    obtain ⟨size, hsize, h⟩ := bind_eq_ok_iff.1 h
    by_cases hone : size = 1
    · rw [if_pos hone] at h
      obtain ⟨only, honly, h⟩ := bind_eq_ok_iff.1 h
      have hsole : soleValue? es = some only := by
        rw [soleValue?, hsize, hone, honly]
        rfl
      rw [singletonPart, hsole]
      exact (Except.ok.inj h).symm
    · rw [if_neg hone] at h
      have hsole : soleValue? es = none := soleValue?_of_size fun heq =>
        hone (Except.ok.inj (hsize.symm.trans heq))
      rw [singletonPart, hsole]
      exact (Except.ok.inj h).symm
  -- an enumeration that counts as absent is not asked, and would not have one element
  · rw [if_neg hpresent] at h
    have hsole : soleValue? es = none :=
      soleValue?_of_size (size_ne_one_of_not_truthy (Bool.not_eq_true _ ▸ hpresent))
    rw [singletonPart, hsole]
    exact (Except.ok.inj h).symm

/-- An enumeration of one value has a first one. -/
theorem first_of_withSingleton {es node node' : Value.Entries}
    (h : withSingleton es node = .ok node') (hsize : (es.get "enum").size = .ok 1) :
    ∃ only, (es.get "enum").first = .ok only := by
  have hpresent : (es.get "enum").truthy = true := by
    by_contra habsent
    exact size_ne_one_of_not_truthy (Bool.not_eq_true _ ▸ habsent) hsize
  rw [withSingleton, if_pos hpresent, hsize, ok_bind, if_pos rfl] at h
  obtain ⟨only, honly, _⟩ := bind_eq_ok_iff.1 h
  exact ⟨only, honly⟩

/-- A place that is no place of a dialect has no switch. -/
theorem lookup_locationFlags {d : Dialect} {location : String}
    (h : Place.named? d (.str location) = none) : locationFlags.lookup location = none := by
  rw [Place.named?, List.find?_eq_none] at h
  have hne : ∀ place : Place, location ≠ place.spelling d := by
    intro place hlocation
    exact h place (Place.mem_all place) (isText_iff.2 (congrArg Value.str hlocation))
  rw [List.lookup_eq_none_iff]
  intro flag hflag
  rw [bne_iff_ne]
  simp only [locationFlags, List.mem_cons, List.not_mem_nil, or_false] at hflag
  rcases hflag with rfl | rfl | rfl | rfl
  · exact hne .body
  · exact hne .path
  · exact hne .query
  · exact hne .header

/-- Where none of the places is named, nothing is put in. The place for forms is found by
comparison, and the others are keys of a table that has no entry under any other text. -/
theorem withLocation_of_unnamed {d : Dialect} {location : Value} {node node' : Value.Entries}
    (hnamed : Place.named? d location = none)
    (h : withLocation d location node = .ok node') : node' = node := by
  have hform : ¬ isText d.formLocation location = true := by
    intro hform
    have hnamed' : Place.named? d location = some .form :=
      Place.named?_eq_some_iff.2 (isText_iff.1 hform)
    exact nomatch hnamed.symm.trans hnamed'
  rw [withLocation, if_neg hform] at h
  obtain ⟨key, hkey, h⟩ := bind_eq_ok_iff.1 h
  split at h
  · next location' =>
    -- a key that is a text is the location itself
    obtain rfl : location = .str location' := by
      unfold asKey at hkey
      split at hkey
      · rw [Option.some.inj (Except.ok.inj hkey)]
      · split at hkey
        · exact nomatch hkey
        · exact nomatch hkey
    rw [lookup_locationFlags hnamed] at h
    exact (Except.ok.inj h).symm
  · exact (Except.ok.inj h).symm

/-- A parameter that travels in one of the places gets its switch, and the place where it has
none. -/
theorem withLocation_eq_ok {d : Dialect} {location : Value} {node node' : Value.Entries}
    (h : withLocation d location node = .ok node') :
    node' = match Place.named? d location with
      | some place => (node.set place.switch.shown (.bool true)).setNew "in" (.str place.shown)
      | none => node := by
  cases hnamed : Place.named? d location with
  | none => exact withLocation_of_unnamed hnamed h
  | some place =>
    obtain rfl := Place.named?_eq_some_iff.1 hnamed
    -- with the dialect and the place given, the step only has to be run
    cases d with
    | listing =>
      cases place with
      | _ => exact (Except.ok.inj h).symm
    | paths =>
      cases place with
      | _ => exact (Except.ok.inj h).symm

/-! ## What is under a name in the end -/

section Names

variable {name : String}

/-- Under a name that none of the values is put under, nothing is put. -/
theorem lastPut_of_names {as : List (String × Value)} {names : List String}
    (has : ∀ a ∈ as, a.1 ∈ names) (hname : name ∉ names) : lastPut name as = none := by
  rw [lastPut, List.lookup_eq_none_iff]
  intro a ha
  rw [bne_iff_ne]
  rintro rfl
  exact hname (has a (List.mem_reverse.1 ha))

/-- The names under which a sole value puts something. -/
theorem singletonPart_names (es : Value.Entries) :
    ∀ a ∈ singletonPart es, a.1 ∈ ["isSingleton", "singleton"] := by
  intro a ha
  unfold singletonPart at ha
  split at ha
  · simp only [List.mem_cons, List.not_mem_nil, or_false] at ha ⊢
    exact ha.imp (congrArg Prod.fst) (congrArg Prod.fst)
  · exact absurd ha List.not_mem_nil

/-- A sole value leaves all other names alone. -/
theorem lastPut_singletonPart (h : name ∉ ["isSingleton", "singleton"]) (es : Value.Entries) :
    lastPut name (singletonPart es) = none :=
  lastPut_of_names (singletonPart_names es) h

/-- The names under which a pattern puts something. -/
theorem patternPart_names (d : Dialect) (es : Value.Entries) :
    ∀ a ∈ patternPart d es, a.1 ∈ ["isPatternType", "pattern"] := by
  intro a ha
  unfold patternPart at ha
  split at ha
  · simp only [List.mem_cons, List.not_mem_nil, or_false] at ha ⊢
    exact ha.imp (congrArg Prod.fst) (congrArg Prod.fst)
  · exact absurd ha List.not_mem_nil

/-- So does a pattern for names. -/
theorem lastPut_patternPart (h : name ∉ ["isPatternType", "pattern"]) (d : Dialect)
    (es : Value.Entries) : lastPut name (patternPart d es) = none :=
  lastPut_of_names (patternPart_names d es) h

/-- Of the switches only that of the place of a node is set. -/
theorem lastPut_switchPart (d : Dialect) (es : Value.Entries) (place : Place) :
    lastPut place.switch.shown (switchPart d es) =
      if placeOf? d es = some place then some (.bool true) else none := by
  rw [switchPart]
  cases placeOf? d es with
  | none => rfl
  | some other =>
    dsimp only
    rw [lastPut_singleton]
    -- the switch that is set is the one that is asked for, or one of another name
    by_cases hother : other = place
    · rw [hother, if_pos rfl, if_pos rfl]
    · rw [if_neg fun h => hother (Place.switch_injective h),
        if_neg fun h => hother (Option.some.inj h)]

/-- A switch is set under one of five names. -/
theorem switchPart_names (d : Dialect) (es : Value.Entries) :
    ∀ a ∈ switchPart d es, a.1 ∈ Place.all.map (·.switch.shown) := by
  intro a ha
  unfold switchPart at ha
  split at ha
  · next place _ =>
    rw [List.mem_singleton.1 ha]
    exact List.mem_map_of_mem (Place.mem_all place)
  · exact absurd ha List.not_mem_nil

/-- Setting a switch leaves the names alone that are not those of switches. -/
theorem lastPut_switchPart_of_names (h : name ∉ Place.all.map (·.switch.shown)) (d : Dialect)
    (es : Value.Entries) : lastPut name (switchPart d es) = none :=
  lastPut_of_names (switchPart_names d es) h

/-- The place is put under one name only, and that only where the node has nothing there. -/
theorem locationPart_names (d : Dialect) (es : Value.Entries) :
    ∀ a ∈ locationPart d es, a.1 ∈ ["in"] := by
  intro a ha
  unfold locationPart at ha
  split at ha
  · split at ha
    · exact absurd ha List.not_mem_nil
    · rw [List.mem_singleton.1 ha]
      exact List.mem_cons_self
  · exact absurd ha List.not_mem_nil

theorem lastPut_locationPart (h : name ∉ ["in"]) (d : Dialect) (es : Value.Entries) :
    lastPut name (locationPart d es) = none :=
  lastPut_of_names (locationPart_names d es) h

/-- Whether a parameter is required is put under two names, for every node. -/
theorem requiredPart_names (es : Value.Entries) :
    ∀ a ∈ requiredPart es, a.1 ∈ ["required", "cardinality"] := by
  intro a ha
  simp only [requiredPart, List.mem_cons, List.not_mem_nil, or_false] at ha ⊢
  exact ha.imp (congrArg Prod.fst) (congrArg Prod.fst)

/-- All other names are left alone by this part, though it comes last and is put into every node.
-/
theorem lastPut_requiredPart (h : name ∉ ["required", "cardinality"]) (es : Value.Entries) :
    lastPut name (requiredPart es) = none :=
  lastPut_of_names (requiredPart_names es) h

end Names

/-- The place is put in where the node has none, whatever else was put into it. -/
theorem setNew_assign {es : Value.Entries} {as : List (String × Value)} {name : String}
    (h : lastPut name as = none) (v : Value) :
    (es.assign as).setNew name v =
      es.assign (as ++ if (lookup (.str name) es).isSome then [] else [(name, v)]) := by
  rw [Value.Entries.setNew, lookup_assign, h, Option.none_or]
  cases hlookup : lookup (.str name) es with
  | none => exact (Entries.assign_append es as [(name, v)]).symm
  | some w => rw [Option.isSome_some, if_pos rfl, List.append_nil]

/-- Looking at the place adds the switch and, where the node has none, the place. What was put in
before does not matter to it as long as nothing was put under the name of the place. -/
theorem withLocation_assign {d : Dialect} {es node' : Value.Entries} {as : List (String × Value)}
    (has : lastPut "in" as = none)
    (h : withLocation d (es.get d.locationField) (es.assign as) = .ok node') :
    node' = es.assign (as ++ switchPart d es ++ locationPart d es) := by
  rw [withLocation_eq_ok h, switchPart, locationPart, placeOf?]
  cases hnamed : Place.named? d (es.get d.locationField) with
  | none => rw [List.append_nil, List.append_nil]
  | some place =>
    have hswitch : (es.assign as).set place.switch.shown (.bool true) =
        es.assign (as ++ [(place.switch.shown, .bool true)]) :=
      (Entries.assign_append es as [(place.switch.shown, .bool true)]).symm
    have hin : lastPut "in" (as ++ [(place.switch.shown, .bool true)]) = none := by
      rw [lastPut_append, has, lastPut_singleton, if_neg (Place.switch_ne_in place)]
      rfl
    dsimp only
    rw [hswitch, setNew_assign hin]

/-- A pattern is put in for parameters that travel in the query, which is read off the node as it
was written. -/
theorem withPattern_assign (d : Dialect) (es : Value.Entries) (as : List (String × Value)) :
    withPattern (es.get d.locationField) es (es.assign as) =
      es.assign (as ++ patternPart d es) := by
  have hquery : isText "query" (es.get d.locationField) = true ↔ placeOf? d es = some .query :=
    isText_iff.trans (@Place.named?_eq_some_iff d _ .query).symm
  rw [withPattern, patternPart, namePattern?]
  by_cases hpattern : placeOf? d es = some .query ∧ (es.get "x-name-pattern").truthy = true
  · rw [if_pos hpattern, if_pos (Bool.and_eq_true_iff.2 ⟨hquery.2 hpattern.1, hpattern.2⟩)]
    exact (Entries.assign_append es as [("isPatternType", .bool true), ("pattern", _)]).symm
  · rw [if_neg hpattern, if_neg, List.append_nil]
    intro hboth
    obtain ⟨hplace, htruthy⟩ := Bool.and_eq_true_iff.1 hboth
    exact hpattern ⟨hquery.1 hplace, htruthy⟩

/-- The last step puts in whether the parameter is required, behind everything else. -/
theorem withRequired_assign (es : Value.Entries) (as : List (String × Value)) :
    withRequired es (es.assign as) = es.assign (as ++ requiredPart es) :=
  (Entries.assign_append es as (requiredPart es)).symm

/-- **A node with all that is derived for it is the node with its derivation put in.** Each step
puts in its own part behind those before. Only the place looks at what is there already, and
nothing but the node itself can have put anything there. -/
theorem classified_eq_ok {d : Dialect} {es derived : Value.Entries}
    (h : classified d (es.get d.locationField) es = .ok derived) :
    ∃ name, Name.camelCaseOfValue (es.get "name") = .ok name ∧
      ((es.get "enum").size = .ok 1 → ∃ only, (es.get "enum").first = .ok only) ∧
      derived = es.assign (derivation d es name) := by
  simp only [classified, withCamelCase, bind_eq_ok_iff] at h
  obtain ⟨_, ⟨name, hname, hnamed⟩, single, hsingle, placed, hplaced, h⟩ := h
  refine ⟨name, hname, first_of_withSingleton hsingle, ?_⟩
  have hsingle' : single = es.assign (("camelCaseName", .str name) :: singletonPart es) := by
    rw [withSingleton_eq_ok hsingle, ← Except.ok.inj hnamed]
    rfl
  have hplaced' : placed =
      es.assign (("camelCaseName", .str name) :: singletonPart es ++ switchPart d es ++
        locationPart d es) := by
    rw [hsingle'] at hplaced
    refine withLocation_assign ?_ hplaced
    -- so far nothing was put under the name of the place, so only the node itself can have it
    have hcons := lastPut_append "in" [("camelCaseName", Value.str name)] (singletonPart es)
    rw [lastPut_singletonPart (by decide), lastPut_singleton, if_neg (by decide)] at hcons
    exact hcons
  rw [← Except.ok.inj h, hplaced', withPattern_assign, withRequired_assign]
  simp only [derivation, List.cons_append, List.append_assoc]

/-! ## The parameter of a node -/

section Lookup

variable (d : Dialect) (es : Value.Entries) (camelCaseName : String)

/-- What was put under a name last, part by part. -/
theorem lastPut_derivation (name : String) :
    lastPut name (derivation d es camelCaseName) =
      (lastPut name (requiredPart es)).or ((lastPut name (patternPart d es)).or
        ((lastPut name (locationPart d es)).or ((lastPut name (switchPart d es)).or
          ((lastPut name (singletonPart es)).or
            (lastPut name [("camelCaseName", .str camelCaseName)]))))) := by
  have hcons := lastPut_append name [("camelCaseName", Value.str camelCaseName)]
    (singletonPart es ++ switchPart d es ++ locationPart d es ++ patternPart d es ++
      requiredPart es)
  rw [List.singleton_append] at hcons
  rw [derivation, hcons, lastPut_append, lastPut_append, lastPut_append, lastPut_append,
    Option.or_assoc, Option.or_assoc, Option.or_assoc, Option.or_assoc]

/-- Names under which something is derived for some node. -/
def derivedNames : List String :=
  ["camelCaseName", "isSingleton", "singleton", "in", "isPathParameter", "isQueryParameter",
    "isHeaderParameter", "isFormParameter", "isBodyParameter", "isPatternType", "pattern",
    "required", "cardinality"]

/-- Everything that is derived is put under one of these names. -/
theorem derivation_names : ∀ a ∈ derivation d es camelCaseName, a.1 ∈ derivedNames := by
  -- each part has names of its own, and these are among the derived ones
  have hpart : ∀ (part : List (String × Value)) (names : List String), names ⊆ derivedNames →
      (∀ a ∈ part, a.1 ∈ names) → ∀ a ∈ part, a.1 ∈ derivedNames :=
    fun _ _ hsub hnames a ha => hsub (hnames a ha)
  simp only [derivation, List.forall_mem_cons, List.forall_mem_append]
  refine ⟨by decide, ⟨⟨⟨?_, ?_⟩, ?_⟩, ?_⟩, ?_⟩
  · exact hpart _ _ (by decide) (singletonPart_names es)
  · exact hpart _ _ (by decide) (switchPart_names d es)
  · exact hpart _ _ (by decide) (locationPart_names d es)
  · exact hpart _ _ (by decide) (patternPart_names d es)
  · exact hpart _ _ (by decide) (requiredPart_names es)

/-- What stands under any other name is what the node says there. -/
theorem lookup_kept {name : String} (h : name ∉ derivedNames) :
    lookup (.str name) (es.assign (derivation d es camelCaseName)) = lookup (.str name) es := by
  rw [lookup_assign, lastPut_of_names (derivation_names d es camelCaseName) h]
  rfl

/-- The name in camel case is what was derived, whatever the node says under that name, as no
later part touches it. -/
theorem lookup_camelCaseName : lookup (.str "camelCaseName")
    (es.assign (derivation d es camelCaseName)) = some (.str camelCaseName) := by
  rw [lookup_assign, lastPut_derivation]
  simp (disch := decide) only [lastPut_requiredPart, lastPut_patternPart, lastPut_locationPart,
    lastPut_switchPart_of_names, lastPut_singletonPart, lastPut_singleton, if_true, Option.none_or,
    Option.some_or]

/-- Under the two names of a sole value stands what this part puts there, or else what the node
says. The other parts have other names. -/
theorem lookup_singletonPart {name : String} (h : name ∈ ["isSingleton", "singleton"]) :
    lookup (.str name) (es.assign (derivation d es camelCaseName)) =
      (lastPut name (singletonPart es)).or (lookup (.str name) es) := by
  have hcamel : "camelCaseName" ≠ name := by
    rintro rfl
    exact absurd h (by decide)
  rw [lookup_assign, lastPut_derivation, lastPut_singleton, if_neg hcamel, Option.or_none]
  simp only [List.mem_cons, List.not_mem_nil, or_false] at h
  rcases h with rfl | rfl
  all_goals simp (disch := decide) only [lastPut_requiredPart, lastPut_patternPart,
    lastPut_locationPart, lastPut_switchPart_of_names, Option.none_or]

/-- The same for the two names of a pattern. -/
theorem lookup_patternPart {name : String} (h : name ∈ ["isPatternType", "pattern"]) :
    lookup (.str name) (es.assign (derivation d es camelCaseName)) =
      (lastPut name (patternPart d es)).or (lookup (.str name) es) := by
  have hcamel : "camelCaseName" ≠ name := by
    rintro rfl
    exact absurd h (by decide)
  rw [lookup_assign, lastPut_derivation, lastPut_singleton, if_neg hcamel]
  simp only [List.mem_cons, List.not_mem_nil, or_false] at h
  rcases h with rfl | rfl
  all_goals simp (disch := decide) only [lastPut_requiredPart, lastPut_singletonPart,
    lastPut_locationPart, lastPut_switchPart_of_names, Option.none_or, Option.or_none]

/-- **Whether a parameter has a sole value is set for such a node only.** For others the node's
own word stands, if it has one. -/
theorem lookup_isSingleton : lookup (.str "isSingleton")
    (es.assign (derivation d es camelCaseName)) =
      if (soleValue? es).isSome = true then some (.bool true)
      else lookup (.str "isSingleton") es := by
  rw [lookup_singletonPart d es camelCaseName (by decide), singletonPart]
  cases soleValue? es with
  | some only => rfl
  | none => rfl

/-- The sole value itself, or what the node says under that name. -/
theorem lookup_singleton : lookup (.str "singleton")
    (es.assign (derivation d es camelCaseName)) =
      (soleValue? es).or (lookup (.str "singleton") es) := by
  rw [lookup_singletonPart d es camelCaseName (by decide), singletonPart]
  cases soleValue? es with
  | some only => rfl
  | none => rfl

/-- Whether the name of a parameter is a pattern is set only where there is one. Otherwise the
node's own word stands. -/
theorem lookup_isPatternType : lookup (.str "isPatternType")
    (es.assign (derivation d es camelCaseName)) =
      if (namePattern? d es).isSome = true then some (.bool true)
      else lookup (.str "isPatternType") es := by
  rw [lookup_patternPart d es camelCaseName (by decide), patternPart]
  cases namePattern? d es with
  | some pattern => rfl
  | none => rfl

/-- The pattern, or what the node says under that name. -/
theorem lookup_pattern : lookup (.str "pattern") (es.assign (derivation d es camelCaseName)) =
    (namePattern? d es).or (lookup (.str "pattern") es) := by
  rw [lookup_patternPart d es camelCaseName (by decide), patternPart]
  cases namePattern? d es with
  | some pattern => rfl
  | none => rfl

/-- Whether a parameter is required, and how often it may come, are always derived. Nothing of
what the node says under these names is left. -/
theorem lookup_requiredPart {name : String} (h : name ∈ ["required", "cardinality"]) :
    lookup (.str name) (es.assign (derivation d es camelCaseName)) =
      lastPut name (requiredPart es) := by
  rw [lookup_assign, lastPut_derivation]
  simp only [List.mem_cons, List.not_mem_nil, or_false] at h
  -- this part comes last, so the parts before it do not matter
  rcases h with rfl | rfl
  · rfl
  · rfl

/-- A switch is set at the place of the node. Anywhere else it is what the node says. -/
theorem lookup_switch (place : Place) : lookup (.str place.switch.shown)
    (es.assign (derivation d es camelCaseName)) =
      if placeOf? d es = some place then some (.bool true)
      else lookup (.str place.switch.shown) es := by
  have hrequired : place.switch.shown ∉ ["required", "cardinality"] := by cases place <;> decide
  have hpattern : place.switch.shown ∉ ["isPatternType", "pattern"] := by cases place <;> decide
  have hsingle : place.switch.shown ∉ ["isSingleton", "singleton"] := by cases place <;> decide
  have hcamel : "camelCaseName" ≠ place.switch.shown := by cases place <;> decide
  have hlocation : place.switch.shown ∉ ["in"] := by cases place <;> decide
  rw [lookup_assign, lastPut_derivation, lastPut_requiredPart hrequired,
    lastPut_patternPart hpattern, lastPut_locationPart hlocation, lastPut_switchPart,
    lastPut_singletonPart hsingle, lastPut_singleton, if_neg hcamel]
  split
  · rfl
  · rfl

end Lookup

/-- What the fields of a parameter say about the node that it is made of: what is derived for the
node, and where nothing is, what the node says itself under the names of the field. -/
structure Derives (d : Dialect) (es : Value.Entries) (p : Parameter) : Prop where
  name : FieldName.text ⟨"name", "name"⟩ "" es = .of p.name
  camelCaseName : Name.camelCaseOfValue (es.get "name") = .ok p.camelCaseName
  required : p.required = (es.get "required").truthy
  cardinality : p.cardinality = if p.required then "" else "?"
  isIn : ∀ place : Place, p.isIn place =
    (decide (placeOf? d es = some place) || (place.switch.flag es).value)
  enumeration : (es.get "enum").size = .ok 1 → ∃ only, (es.get "enum").first = .ok only
  isSingleton : p.isSingleton = ((soleValue? es).isSome ||
    (FieldName.flag ⟨"isSingleton", "is_singleton"⟩ es).value)
  singleton : p.singleton = (soleValue? es).getD (FieldName.any ⟨"singleton", "singleton"⟩ es)
  isPattern : p.isPattern = ((namePattern? d es).isSome ||
    (FieldName.flag ⟨"isPatternType", "is_pattern_type"⟩ es).value)
  statedPattern : ∀ v, namePattern? d es = some v → Mismatch.text? v = .ok p.pattern
  ownPattern : namePattern? d es = none →
    FieldName.text? ⟨"pattern", "pattern"⟩ es = .of p.pattern

section Record

variable {d : Dialect} {es : Value.Entries} {camelCaseName : String} {p : Parameter}

/-- A switch that may be set for a node is on when it was set, and else what the node says. -/
theorem flag_of_switched {f : FieldName} {set : Prop} [Decidable set] {derived : Value.Entries}
    {on : Bool} (hshown : lookup (.str f.shown) derived =
      if set then some (.bool true) else lookup (.str f.shown) es)
    (hown : lookup (.str f.own) derived = lookup (.str f.own) es)
    (h : f.flag derived = .of on) : on = (decide set || (f.flag es).value) := by
  by_cases hset : set
  · -- the name of the outline wins, whatever the node says under the other name
    rw [if_pos hset] at hshown
    rw [FieldName.flag_of_lookup hshown] at h
    rw [decide_eq_true hset, Bool.true_or]
    exact (congrArg Reading.value h).symm
  · rw [if_neg hset] at hshown
    have hfind : f.find? derived = f.find? es := FieldName.find?_congr hshown hown
    rw [FieldName.flag, hfind] at h
    rw [decide_eq_false hset, Bool.false_or]
    exact (congrArg Reading.value h).symm

/-- What is read from a node with its derivation put in. The proof goes field by field. A name
that nothing is derived under is looked up in the node itself (`lookup_kept`), and for each of the
others there is a lemma that says what was put there last. -/
theorem derives_of_readFrom (hname : Name.camelCaseOfValue (es.get "name") = .ok camelCaseName)
    (henum : (es.get "enum").size = .ok 1 → ∃ only, (es.get "enum").first = .ok only)
    (h : p.ReadFrom (es.assign (derivation d es camelCaseName))) : Derives d es p := by
  have hkept : ∀ name, name ∉ derivedNames →
      lookup (.str name) (es.assign (derivation d es camelCaseName)) = lookup (.str name) es :=
    fun _ hderived => lookup_kept d es camelCaseName hderived
  have hrequired : (es.get "required").truthy = p.required := by
    have hread := h.required
    rw [FieldName.flag_of_lookup (lookup_requiredPart d es camelCaseName (by decide))] at hread
    exact congrArg Reading.value hread
  -- field by field: what was read there is what stood there, and that is derived or the node's
  -- own
  constructor
  case name =>
    have hfind := @FieldName.find?_congr ⟨"name", "name"⟩ _ es (hkept "name" (by decide))
      (hkept "name" (by decide))
    rw [← h.name, FieldName.text, FieldName.text, hfind]
  case camelCaseName =>
    have hread := h.camelCaseName
    rw [FieldName.text_of_lookup (lookup_camelCaseName d es camelCaseName)] at hread
    have hsame : camelCaseName = p.camelCaseName := congrArg Reading.value hread
    rw [hname, hsame]
  case required => exact hrequired.symm
  case cardinality =>
    have hread := h.cardinality
    rw [FieldName.text_of_lookup (lookup_requiredPart d es camelCaseName (by decide)),
      hrequired] at hread
    exact (congrArg Reading.value hread).symm
  case isIn =>
    intro place
    refine flag_of_switched (lookup_switch d es camelCaseName place) (hkept _ ?_) (h.isIn place)
    cases place <;> decide
  case enumeration => exact henum
  case isSingleton =>
    have hon := flag_of_switched (lookup_isSingleton d es camelCaseName)
      (hkept "is_singleton" (by decide)) h.isSingleton
    rw [hon, Bool.decide_eq_true]
  case singleton =>
    have hput := lookup_singleton d es camelCaseName
    rw [← h.singleton]
    -- both names of the field are one, so a value that was put there is what is found
    cases hsole : soleValue? es with
    | some only =>
      rw [hsole] at hput
      rw [FieldName.any, @FieldName.find?_of_lookup ⟨"singleton", "singleton"⟩ _ _ hput]
      rfl
    | none =>
      rw [hsole] at hput
      rw [FieldName.any, @FieldName.find?_congr ⟨"singleton", "singleton"⟩ _ es hput hput]
      rfl
  case isPattern =>
    have hon := flag_of_switched (lookup_isPatternType d es camelCaseName)
      (hkept "is_pattern_type" (by decide)) h.isPattern
    rw [hon, Bool.decide_eq_true]
  case statedPattern =>
    intro v hv
    have hput := lookup_pattern d es camelCaseName
    rw [hv] at hput
    have hread := h.pattern
    rw [FieldName.text?, @FieldName.find?_of_lookup ⟨"pattern", "pattern"⟩ _ _ hput] at hread
    exact Reading.eq_ok_of_check hread
  case ownPattern =>
    intro hnone
    have hput := lookup_pattern d es camelCaseName
    rw [hnone] at hput
    rw [← h.pattern, FieldName.text?, FieldName.text?,
      @FieldName.find?_congr ⟨"pattern", "pattern"⟩ _ es hput hput]

end Record

/-- The record of a parameter is read from the entries of its node, with those that are derived
written over them. The copy in between is the node itself. -/
theorem exists_readFrom {d : Dialect} {node : Value} {p : Parameter}
    (h : parameterOf d node = .ok p) :
    ∃ (es : Value.Entries) (name : String), node.entries = .ok es ∧
      Name.camelCaseOfValue (es.get "name") = .ok name ∧
      ((es.get "enum").size = .ok 1 → ∃ only, (es.get "enum").first = .ok only) ∧
      p.ReadFrom (es.assign (derivation d es name)) := by
  simp only [parameterOf, bind_eq_ok_iff] at h
  obtain ⟨location, hlocation, es, hes, -, -, derived, hderived, hp⟩ := h
  rw [field_of_entries hes] at hlocation
  obtain rfl := Except.ok.inj hlocation
  obtain ⟨name, hname, henum, rfl⟩ := classified_eq_ok hderived
  exact ⟨es, name, hes, hname, henum, Parameter.readFrom_of_ofEntries hp⟩

/-- **A parameter is read from its node and what is derived for it.** -/
theorem parameterOf_eq_ok {d : Dialect} {node : Value} {p : Parameter}
    (h : parameterOf d node = .ok p) : ∃ es, node.entries = .ok es ∧ Derives d es p := by
  obtain ⟨es, name, hes, hname, henum, hread⟩ := exists_readFrom h
  exact ⟨es, hes, derives_of_readFrom hname henum hread⟩

end Decoding

end ApiOutline
