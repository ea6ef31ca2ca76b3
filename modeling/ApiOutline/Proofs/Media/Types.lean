/-
Which media types an operation has.

Types of answers and types of requests can be listed by an operation and by the description as a
whole. A list of the operation counts, even if it is empty, and is taken as it is. Only where the
operation lists nothing is the description asked, and then JSON alone is taken for the answers if it
is among the types (`acceptedTypes`, `sentTypes`). The headers of a method are told by these lists
and the dialect (`mediaHeaders`).

All this is for lists of texts. Other values are taken apart in whatever way they allow, a text into
its characters, and what comes out need not be a text.
-/
import ApiOutline.Decoding.Media
import ApiOutline.Proofs.Limits
import ApiOutline.Proofs.Outcome
import ApiOutline.Proofs.Translation.Basic
import ApiOutline.Proofs.Value.Entries

set_option autoImplicit false

namespace ApiOutline.Decoding

open Outcome Value

/-! ## What is listed -/

/-- The types that a value lists; nothing, if it is no list. -/
def typesIn (v : Value) : Option (List String) :=
  match v.opened with
  | .list items => some (items.filterMap fun | .str type => some type | _ => none)
  | _ => none

/-- Where media types are stated, they are listed as texts. -/
structure ListsTypes (es : Value.Entries) : Prop where
  produces : TextList (es.get "produces")
  consumes : TextList (es.get "consumes")

/-- A list of texts lists these texts as types, and none of them is lost. -/
theorem typesIn_of_opened {v : Value} {types : List String}
    (h : v.opened = .list (types.map .str)) : typesIn v = some types := by
  have htypes : ((types.map Value.str).filterMap
      fun | .str type => some type | _ => none : List String) = types := by
    rw [List.filterMap_map]
    exact List.filterMap_some
  simp only [typesIn, h, htypes]

/-- Of null and of a list of texts nothing is lost. -/
theorem typesIn_cases {v : Value} (h : TextList v) :
    (v.isNull = true ∧ v.truthy = false ∧ typesIn v = none) ∨
      ∃ types, v.isNull = false ∧ v.opened = .list (types.map .str) ∧
        v.elements.map some = .ok (some (types.map .str)) ∧ typesIn v = some types := by
  rcases h with rfl | ⟨types, hopened⟩
  · exact .inl ⟨rfl, rfl, rfl⟩
  · refine .inr ⟨types, ?_, hopened, ?_, typesIn_of_opened hopened⟩
    · cases v with
      | scalar k => exact nomatch hopened
      | _ => rfl
    · rw [elements_of_opened hopened]
      rfl

/-- The types of answers of an operation. -/
def acceptedTypes (spec operation : Value.Entries) : List String :=
  match typesIn (operation.get "produces") with
  | some own => own
  | none =>
    let shared := (typesIn (spec.get "produces")).getD []
    if jsonType ∈ shared then [jsonType] else shared

/-- The types of its requests. -/
def sentTypes (spec operation : Value.Entries) : List String :=
  match typesIn (operation.get "consumes") with
  | some own => own
  | none => (typesIn (spec.get "consumes")).getD []

/-! ## What is read -/

section Lists

variable {spec operation : Value.Entries}

/-- **The types of answers are the accepted types**, given that what is stated for the operation
and for the whole description are lists of texts or nothing. There is always an answer, also where
neither says anything. -/
theorem answerTypes_eq (hspec : TextList (spec.get "produces"))
    (hown : TextList (operation.get "produces")) :
    ∃ answers, answerTypes spec operation = .ok answers ∧
      answers.getD [] = (acceptedTypes spec operation).map .str := by
  unfold answerTypes acceptedTypes
  -- what the operation lists itself decides first, then what the description lists for all
  rcases typesIn_cases hown with ⟨hnull, -, hnone⟩ | ⟨own, hnull, -, hlist, hsome⟩
  · rcases typesIn_cases hspec with ⟨-, habsent, hnone'⟩ | ⟨shared, -, hopened, hlist, hsome⟩
    · exact ⟨none, by simp [hnull, habsent, pure, Except.pure], by simp [hnone, hnone']⟩
    · have hcontains := containsText_texts hopened jsonType
      -- an empty list is not looked at, and has nothing to narrow
      by_cases hpresent : (spec.get "produces").truthy = true
      · by_cases hjson : jsonType ∈ shared
        · refine ⟨some [.str jsonType], ?_, by simp [hnone, hsome, hjson]⟩
          simp [hnull, hpresent, hcontains, hjson, ok_bind, pure, Except.pure]
        · refine ⟨some (shared.map .str), ?_, by simp [hnone, hsome, hjson]⟩
          simp [hnull, hpresent, hcontains, hjson, hlist, ok_bind]
      · have hempty : shared = [] := by
          simpa using eq_nil_of_not_truthy hopened (Bool.not_eq_true _ ▸ hpresent)
        exact ⟨none, by simp [hnull, hpresent, pure, Except.pure], by simp [hnone, hsome, hempty]⟩
  · exact ⟨some (own.map .str), by simp [hnull, hlist], by simp [hsome]⟩

/-- The same of the types of requests. Here an empty list of the whole description is taken as it
is, and JSON is not preferred. -/
theorem requestTypes_eq (hspec : TextList (spec.get "consumes"))
    (hown : TextList (operation.get "consumes")) :
    ∃ requests, requestTypes spec operation = .ok requests ∧
      requests.getD [] = (sentTypes spec operation).map .str := by
  unfold requestTypes sentTypes
  rcases typesIn_cases hown with ⟨hnull, -, hnone⟩ | ⟨own, hnull, -, hlist, hsome⟩
  · rcases typesIn_cases hspec with
      ⟨hnull', -, hnone'⟩ | ⟨shared, hnull', -, hlist, hsome⟩
    · exact ⟨none, by simp [hnull, hnull', pure, Except.pure], by simp [hnone, hnone']⟩
    · exact ⟨some (shared.map .str), by simp [hnull, hnull', hlist], by simp [hnone, hsome]⟩
  · exact ⟨some (own.map .str), by simp [hnull, hlist], by simp [hsome]⟩

end Lists

/-! ## Headers -/

/-- The header that announces types of answers, if there are any: each of them in quotes. -/
def acceptHeader (types : List String) : List HeaderSpec :=
  if types = [] then []
  else [⟨"Accept", ", ".intercalate (types.map fun type => "'" ++ type ++ "'")⟩]

/-- The header that announces types of requests, if there are any: all between one pair of
quotes. -/
def contentTypeHeader (types : List String) : List HeaderSpec :=
  if types = [] then [] else [⟨"Content-Type", "'" ++ ",".intercalate types ++ "'"⟩]

/-- All headers of a method. Types of requests are announced in listings only. -/
def mediaHeaders (d : Dialect) (accepted sent : List String) : List HeaderSpec :=
  match d with
  | .listing => acceptHeader accepted ++ contentTypeHeader sent
  | .paths => acceptHeader accepted

/-- The header for types of answers is written from texts as `acceptHeader` says: each in quotes,
with a comma and a blank between them. -/
theorem acceptHeaders_texts (types : List String) :
    acceptHeaders (types.map .str) = acceptHeader types := by
  cases types with
  | nil => rfl
  | cons type types =>
    have hquoted : quotedTypes ((type :: types).map .str) =
        ", ".intercalate ((type :: types).map fun type => "'" ++ type ++ "'") := by
      rw [quotedTypes, List.map_map]
      rfl
    rw [acceptHeaders, hquoted]
    rfl

/-- Texts can be searched, so all of them are handed on as they are. -/
theorem mapM_searchable (texts : List String) :
    (texts.map Value.str).mapM Value.searchable = .ok texts := by
  rw [mapM_eq_ok_iff, List.forall₂_map_left_iff]
  exact List.forall₂_same.2 fun _ _ => rfl

/-- The header for types of requests has all types between one pair of quotes, and writing it of
texts cannot fail. -/
theorem contentTypeHeaders_eq (types : List String) :
    contentTypeHeaders (types.map .str) = .ok (contentTypeHeader types) := by
  cases types with
  | nil => rfl
  | cons type types =>
    rw [contentTypeHeaders, mapM_searchable]
    rfl

/-- **The media types of an operation and the header of its answers**, where the types are listed
as texts: what it accepts, what it sends, and one header in which the accepted types are quoted.
-/
theorem mediaOf_eq {spec operation : Value.Entries} (hspec : ListsTypes spec)
    (hown : ListsTypes operation) :
    mediaOf spec operation = .ok
      { accepts := (acceptedTypes spec operation).map .str
        contentTypes := (sentTypes spec operation).map .str
        headers := acceptHeader (acceptedTypes spec operation) } := by
  obtain ⟨answers, hanswers, haccepted⟩ := answerTypes_eq hspec.produces hown.produces
  obtain ⟨requests, hrequests, hsent⟩ := requestTypes_eq hspec.consumes hown.consumes
  rw [mediaOf, hanswers, ok_bind]
  simp only [haccepted, Value.checkTexts_texts, hrequests, ok_bind, hsent, acceptHeaders_texts]
  rfl

end ApiOutline.Decoding
