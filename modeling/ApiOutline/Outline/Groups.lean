/-
The parameters of a method, sorted.

The groups of a method are derived from its parameters and from nothing else, and sorting them
again after the parameters have changed gives what sorting once would have given.
-/
import ApiOutline.Name.Words
import ApiOutline.Outline.Basic

set_option autoImplicit false

namespace ApiOutline

/-- The method with its parameters in groups, as `split_parameters` sorts them. -/
def Method.grouped (m : Method) : Method :=
  { m with
    pathParams := m.parameters.filter (·.isPath)
    queryParams := m.parameters.filter (·.isQuery)
    headerParams := m.parameters.filter (·.isHeader)
    formParams := m.parameters.filter (·.isForm)
    requiredParams := m.parameters.filter (·.required)
    optionalParams := m.parameters.filter (!·.required)
    bodyParam := m.parameters.find? (·.isBody) }

/-- The service with its name in camel case and its methods grouped: what `finalize` does for each
service. -/
def Service.grouped (s : Service) : Service :=
  { s with
    methods := s.methods.map Method.grouped
    camelCaseName := Name.camelCase s.name }

/-- The outline with everything in groups, as `finalize` leaves it. -/
def Summary.grouped (s : Summary) : Summary :=
  { s with services := s.services.map Service.grouped }

end ApiOutline
