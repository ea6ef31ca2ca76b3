/-
The outline of an API.

The outline is what a client is generated from: services, their methods with parameters sorted by
where they travel, and models with their properties. Parameters, models and properties keep
whatever else the description said about them, in its order.
-/
import ApiOutline.Value.Basic

set_option autoImplicit false

namespace ApiOutline

/-- What a description says about a node beyond the fields of its record. -/
abbrev Extras := List (String × Value)

/-- A parameter of a method: `Parameter`, with its switches for the place where it travels. -/
structure Parameter where
  name : String := ""
  camelCaseName : String := ""
  /-- Where the parameter travels, in the description's words. -/
  location : Option String := none
  required : Bool := false
  isPath : Bool := false
  isQuery : Bool := false
  isHeader : Bool := false
  isForm : Bool := false
  isBody : Bool := false
  /-- Is there exactly one value it can have? -/
  isSingleton : Bool := false
  singleton : Value := .null
  /-- Does it stand for all parameters whose names match a pattern? -/
  isPattern : Bool := false
  pattern : Option String := none
  /-- The mark of an optional parameter, or nothing. -/
  cardinality : String := "?"
  extras : Extras := []

/-- A header that every request of a method carries. -/
structure HeaderSpec where
  name : String
  value : String
  deriving DecidableEq, Repr

/-- A method of a service. The groups of its parameters are filled in when everything has been
decoded. -/
structure Method where
  path : String
  methodName : String
  /-- The verb, in capitals. -/
  verb : String
  isGet : Bool := false
  isPost : Bool := false
  summary : Option String := none
  externalDocs : Option (List (String × Value)) := none
  isSecure : Bool := false
  hasOptionalParameter : Bool := false
  parameters : List Parameter := []
  headers : List HeaderSpec := []
  /-- Media types of answers. What the description lists is not checked. -/
  accepts : List Value := []
  /-- Media types of requests. What the description lists is not checked. -/
  contentTypes : List Value := []
  pathParams : List Parameter := []
  queryParams : List Parameter := []
  headerParams : List Parameter := []
  formParams : List Parameter := []
  requiredParams : List Parameter := []
  optionalParams : List Parameter := []
  bodyParam : Option Parameter := none

/-- A service, which is a name for some operations, and the methods made of them in document
order. -/
structure Service where
  name : String
  serviceName : String
  camelCaseName : String := ""
  version : Option String := none
  methods : List Method := []

/-- A property of a model. -/
structure Property where
  name : String
  camelCaseName : String
  type : String
  extras : Extras := []

/-- A model, with its properties in the order in which they are defined. -/
structure Model where
  name : String
  modelName : String
  version : Option String
  properties : List Property
  extras : Extras := []

/-- The outline as a whole: `SpecSummary`. -/
structure Summary where
  version : Option String
  title : Option String
  description : Option String
  isSecure : Bool
  domain : String
  baseUrl : String
  moduleName : Option String
  serviceName : Option String
  imports : Option (List String)
  services : List Service := []
  models : List Model := []

/-- The names that the methods of a service have, in order: `method_names`, which has them as a
set. -/
def Service.methodNames (s : Service) : List String :=
  s.methods.map (·.methodName)

/-- The service of that name, the first one if there are several: `get_service`. -/
def Summary.service? (s : Summary) (name : String) : Option Service :=
  s.services.find? (·.name == name)

/-- What the description said about a parameter under a key that is no field: `get_extra`. -/
def Parameter.extra? (p : Parameter) (key : String) : Option Value :=
  p.extras.lookup key

end ApiOutline
