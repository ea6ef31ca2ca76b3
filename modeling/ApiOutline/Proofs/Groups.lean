/-
Parameters that are sorted again.

The groups of a method and its body are told by the parameters that the method has when they are
sorted, and what they held before makes no difference. So parameters can be replaced as often as
one likes: when they are sorted after each replacement, the method is in the end what sorting the
last ones makes of a method with nothing in its groups (`regroupedThrough_append`).

What sorting achieves is said without saying how it is done (`Method.Sorted`). A group is a part of
the parameters in their order, with everything in it that belongs there, as often as it is there.
The required parameters and the optional ones are all of them between them. This leaves no choice:
the methods that are sorted are those that sorting leaves as they are (`Method.sorted_iff`).
-/
import ApiOutline.Outline.Groups

set_option autoImplicit false

namespace ApiOutline

/-! ## Parts of a list -/

section Parts

variable {α : Type} {test : α → Bool} {whole part : List α}

/-- A part of a list that has all that passes a test, in order and as often as the list has it:
what the part leaves out does not pass. -/
structure Sifted (test : α → Bool) (whole part : List α) : Prop where
  sublist : part.Sublist whole
  passes : ∀ a ∈ part, test a = true
  length_eq : part.length = whole.countP test

/-- There is one such part: a part in which everything passes is a part of the filtered list, and
the number of elements leaves no room for anything else. -/
theorem sifted_iff : Sifted test whole part ↔ part = whole.filter test := by
  constructor
  · intro h
    have hpart : part.filter test = part := List.filter_eq_self.2 h.passes
    have hsub : part.Sublist (whole.filter test) := hpart ▸ h.sublist.filter test
    -- a part as long as the whole is the whole
    apply hsub.eq_of_length
    rw [h.length_eq, List.countP_eq_length_filter]
  · rintro rfl
    constructor
    case sublist => exact List.filter_sublist
    case passes => exact fun a ha => (List.mem_filter.1 ha).2
    case length_eq => exact List.countP_eq_length_filter.symm

/-- The first in a list that passes a test, or nothing, if none does. -/
inductive First (test : α → Bool) (whole : List α) : Option α → Prop
  | missing (h : ∀ a ∈ whole, test a = false) : First test whole none
  | found (before : List α) (a : α) (after : List α) (hwhole : whole = before ++ a :: after)
      (hbefore : ∀ b ∈ before, test b = false) (ha : test a = true) : First test whole (some a)

/-- There is one such answer: the first element that a search finds, or nothing where the search
ends. -/
theorem first_iff {found : Option α} : First test whole found ↔ found = whole.find? test := by
  constructor
  · intro h
    cases h with
    | missing h =>
      symm
      rw [List.find?_eq_none]
      intro a ha
      rw [h a ha]
      exact Bool.false_ne_true
    | found before a after hwhole hbefore ha =>
      symm
      rw [List.find?_eq_some_iff_append]
      refine ⟨ha, before, after, hwhole, fun b hb => ?_⟩
      rw [hbefore b hb]
      rfl
  · rintro rfl
    -- what the search answers says which of the two it is
    cases hfound : whole.find? test with
    | none => exact .missing fun a ha => Bool.eq_false_iff.2 (List.find?_eq_none.1 hfound a ha)
    | some a =>
      obtain ⟨ha, before, after, hwhole, hbefore⟩ := List.find?_eq_some_iff_append.1 hfound
      exact .found before a after hwhole (fun b hb => by simpa using hbefore b hb) ha

end Parts

/-! ## Sorted methods -/

/-- The groups that are lists. -/
inductive Bucket where
  | path
  | query
  | header
  | form
  | required
  | optional
  deriving DecidableEq, Repr

/-- Does a parameter belong there? -/
def Bucket.takes : Bucket → Parameter → Bool
  | .path => (·.isPath)
  | .query => (·.isQuery)
  | .header => (·.isHeader)
  | .form => (·.isForm)
  | .required => (·.required)
  | .optional => (!·.required)

namespace Method

def bucket (m : Method) : Bucket → List Parameter
  | .path => m.pathParams
  | .query => m.queryParams
  | .header => m.headerParams
  | .form => m.formParams
  | .required => m.requiredParams
  | .optional => m.optionalParams

/-- A method whose groups are those of its parameters. -/
structure Sorted (m : Method) : Prop where
  sifted : ∀ b : Bucket, Sifted b.takes m.parameters (m.bucket b)
  first : First (·.isBody) m.parameters m.bodyParam

/-- Sorting puts into each group what belongs there, from all parameters of the method. -/
theorem bucket_grouped (m : Method) (b : Bucket) :
    m.grouped.bucket b = m.parameters.filter b.takes := by
  cases b <;> rfl

/-- **A method whose parameters have been sorted is sorted.** -/
theorem sorted_grouped (m : Method) : m.grouped.Sorted where
  sifted b := sifted_iff.2 (m.bucket_grouped b)
  first := first_iff.2 rfl

/-- **Sorting does what it is there for, and there is no other way to do it.** -/
theorem sorted_iff (m : Method) : m.Sorted ↔ m.grouped = m := by
  constructor
  · intro h
    have hbucket : ∀ b : Bucket, m.parameters.filter b.takes = m.bucket b :=
      fun b => (sifted_iff.1 (h.sifted b)).symm
    -- each field that sorting writes is one of these
    have hpath := hbucket .path
    have hquery := hbucket .query
    have hheader := hbucket .header
    have hform := hbucket .form
    have hrequired := hbucket .required
    have hoptional := hbucket .optional
    have hbody : m.parameters.find? (·.isBody) = m.bodyParam := (first_iff.1 h.first).symm
    simp only [Bucket.takes, bucket] at hpath hquery hheader hform hrequired hoptional
    rw [grouped, hpath, hquery, hheader, hform, hrequired, hoptional, hbody]
  · intro h
    rw [← h]
    exact m.sorted_grouped

/-- Sorting twice comes to the same as sorting once, since a sorted method is left as it is. -/
theorem grouped_grouped (m : Method) : m.grouped.grouped = m.grouped :=
  m.grouped.sorted_iff.1 m.sorted_grouped

namespace Sorted

variable {m : Method}

/-- No parameter is both required and optional. -/
theorem not_mem_optionalParams (h : m.Sorted) {p : Parameter} (hp : p ∈ m.requiredParams) :
    p ∉ m.optionalParams := by
  intro hoptional
  have hyes : p.required = true := (h.sifted .required).passes p hp
  have hno : (!p.required) = true := (h.sifted .optional).passes p hoptional
  rw [hyes] at hno
  exact absurd hno (by decide)

/-- The required parameters and the optional ones are all parameters between them, each as often
as it is a parameter. -/
theorem partition (h : m.Sorted) : (m.requiredParams ++ m.optionalParams).Perm m.parameters := by
  have hrequired : m.requiredParams = m.parameters.filter (·.required) :=
    sifted_iff.1 (h.sifted .required)
  have hoptional : m.optionalParams = m.parameters.filter (!·.required) :=
    sifted_iff.1 (h.sifted .optional)
  rw [hrequired, hoptional]
  exact List.filter_append_perm (·.required) m.parameters

end Sorted

/-! ## Sorting again -/

/-- What a method is apart from its parameters: it has none, and nothing in its groups. -/
def bare (m : Method) : Method :=
  { m with
    parameters := []
    pathParams := []
    queryParams := []
    headerParams := []
    formParams := []
    requiredParams := []
    optionalParams := []
    bodyParam := none }

/-- The method with other parameters, and these in groups. -/
def regrouped (m : Method) (ps : List Parameter) : Method :=
  { m with parameters := ps }.grouped

/-- The method after its parameters have been replaced by one list after the other, each sorted
when it came. -/
def regroupedThrough (m : Method) (lists : List (List Parameter)) : Method :=
  lists.foldl regrouped m

/-- Sorting touches the groups and nothing else. -/
theorem bare_grouped (m : Method) : m.grouped.bare = m.bare :=
  rfl

/-- A replacement leaves nothing of the parameters and of the groups that were there. -/
theorem regrouped_bare (m : Method) (ps : List Parameter) : m.bare.regrouped ps = m.regrouped ps :=
  rfl

/-- However often the parameters are replaced, the method is the same apart from them. -/
theorem bare_regroupedThrough (m : Method) (lists : List (List Parameter)) :
    (m.regroupedThrough lists).bare = m.bare := by
  induction lists generalizing m with
  | nil => rfl
  | cons ps lists ih =>
    -- one replacement leaves the rest alone, and the others by induction
    have hstep : (m.regrouped ps).bare = m.bare := rfl
    rw [← hstep]
    exact ih (m.regrouped ps)

/-- **Of all replacements the last decides.** -/
theorem regroupedThrough_append (m : Method) (earlier : List (List Parameter))
    (last : List Parameter) :
    m.regroupedThrough (earlier ++ [last]) = m.bare.regrouped last := by
  have hlast : m.regroupedThrough (earlier ++ [last]) =
      (m.regroupedThrough earlier).regrouped last := List.foldl_append
  rw [hlast, ← regrouped_bare, bare_regroupedThrough]

/-- The groups of two lists, one behind the other, are the groups of one behind those of the
other. -/
theorem bucket_regrouped_append (m : Method) (ps qs : List Parameter) (b : Bucket) :
    (m.regrouped (ps ++ qs)).bucket b =
      (m.regrouped ps).bucket b ++ (m.regrouped qs).bucket b := by
  unfold regrouped
  rw [bucket_grouped, bucket_grouped, bucket_grouped]
  exact List.filter_append ps qs

/-- The body is that of the first list, if it has one. -/
theorem bodyParam_regrouped_append (m : Method) (ps qs : List Parameter) :
    (m.regrouped (ps ++ qs)).bodyParam =
      (m.regrouped ps).bodyParam.or (m.regrouped qs).bodyParam :=
  List.find?_append

end Method

/-! ## Whole outlines -/

/-- The same of a service, method by method. -/
theorem Service.grouped_grouped (s : Service) : s.grouped.grouped = s.grouped := by
  have hmethods : (s.methods.map Method.grouped).map Method.grouped =
      s.methods.map Method.grouped := by
    rw [List.map_map]
    exact List.map_congr_left fun m _ => m.grouped_grouped
  exact congrArg (fun methods => { s.grouped with methods }) hmethods

/-- And of a whole outline, service by service. -/
theorem Summary.grouped_grouped (s : Summary) : s.grouped.grouped = s.grouped := by
  have hservices : (s.services.map Service.grouped).map Service.grouped =
      s.services.map Service.grouped := by
    rw [List.map_map]
    exact List.map_congr_left fun service _ => service.grouped_grouped
  exact congrArg (fun services => { s with services }) hservices

/-- **The groups are told by the parameters.** Whatever a method holds in its groups, and however
often its parameters are replaced and sorted, it is in the end what sorting the last ones makes of
a method that has nothing in its groups; so sorting again changes nothing, in a method and in an
outline. The groups are what they should be, with the required and the optional parameters apart
and everything in one of them, they follow lists that are put behind each other, and nothing of the
method but its groups is touched. -/
theorem Method.groups_told_by_parameters (m : Method) (s : Summary) :
    (∀ earlier last, m.regroupedThrough (earlier ++ [last]) = m.bare.regrouped last) ∧
      m.grouped.grouped = m.grouped ∧ s.grouped.grouped = s.grouped ∧
      m.grouped.Sorted ∧
      ((m.grouped.requiredParams ++ m.grouped.optionalParams).Perm m.parameters ∧
        ∀ p ∈ m.grouped.requiredParams, p ∉ m.grouped.optionalParams) ∧
      (∀ ps qs,
        (∀ b, (m.regrouped (ps ++ qs)).bucket b =
          (m.regrouped ps).bucket b ++ (m.regrouped qs).bucket b) ∧
        (m.regrouped (ps ++ qs)).bodyParam =
          (m.regrouped ps).bodyParam.or (m.regrouped qs).bodyParam) ∧
      m.grouped.parameters = m.parameters ∧ m.grouped.bare = m.bare := by
  refine ⟨m.regroupedThrough_append, m.grouped_grouped, s.grouped_grouped, m.sorted_grouped,
    ⟨?_, ?_⟩, fun ps qs => ⟨?_, ?_⟩, rfl, m.bare_grouped⟩
  · exact m.sorted_grouped.partition
  · exact fun p hp => m.sorted_grouped.not_mem_optionalParams hp
  · exact m.bucket_regrouped_append ps qs
  · exact m.bodyParam_regrouped_append ps qs

end ApiOutline
