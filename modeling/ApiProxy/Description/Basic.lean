import ApiProxy.Catalog
import ApiProxy.Json.Basic

/-!
# API descriptions

What a remote service says about itself: modules own controllers, controllers own actions and
the service interfaces they implement, and a flat catalog defines every data type that the
actions refer to. Types are named by descriptors.
-/

namespace ApiProxy

/-- A parameter as it is declared on a method. -/
structure MethodParameter where
  name : String
  /-- The type with its assembly. -/
  typeAsString : Option String
  type : String
  typeSimple : Option String
  isOptional : Bool
  defaultValue : Option Json
deriving DecidableEq

/-- A parameter as it is bound from a request. -/
structure BoundParameter where
  /-- The parameter of the method that this binding belongs to. -/
  nameOnMethod : String
  name : String
  jsonName : Option String
  type : String
  typeSimple : Option String
  isOptional : Bool
  defaultValue : Option Json
  constraintTypes : Option (List String)
  bindingSourceId : Option String
  /-- The parameter object that this one was taken out of. -/
  descriptorName : Option String
deriving DecidableEq

/-- What a method returns. -/
structure ReturnValue where
  type : String
  typeSimple : Option String
deriving DecidableEq

/-- A method as it is declared on a service interface. -/
structure InterfaceMethod where
  name : String
  parametersOnMethod : List MethodParameter
  returnValue : ReturnValue
deriving DecidableEq

/-- A service interface that a controller implements. -/
structure ServiceInterface where
  type : String
  name : Option String
  methods : List InterfaceMethod
deriving DecidableEq

/-- An action of a controller. -/
structure Action where
  uniqueName : String
  name : String
  httpMethod : Option String
  url : Option String
  supportedVersions : List String
  parametersOnMethod : List MethodParameter
  parameters : List BoundParameter
  returnValue : ReturnValue
  allowAnonymous : Option Bool
  /-- The type that declares the method. -/
  implementFrom : String
deriving DecidableEq

/-- A controller that exposes a service. -/
structure Controller where
  controllerName : String
  controllerGroupName : Option String
  isRemoteService : Bool
  isIntegrationService : Bool
  apiVersion : Option String
  type : String
  /-- The implemented interfaces; the last one is the primary one. -/
  interfaces : List ServiceInterface
  actions : Catalog Action
deriving DecidableEq

/-- A module of the remote service. -/
structure ServiceModule where
  rootPath : String
  remoteServiceName : String
  controllers : Catalog Controller
deriving DecidableEq

/-- A property of a data type. -/
structure Property where
  name : String
  jsonName : Option String
  type : String
  typeSimple : Option String
  isRequired : Bool
  minLength : Option Int64
  maxLength : Option Int64
  minimum : Option String
  maximum : Option String
  regex : Option String
deriving DecidableEq

/-- The definition of a data type. -/
structure TypeDefinition where
  baseType : Option String
  isEnum : Bool
  enumNames : Option (List String)
  enumValues : Option (List Json)
  /-- The names of the arguments of a generic type. -/
  genericArguments : Option (List String)
  properties : Option (List Property)
deriving DecidableEq

/-- The description of an API: its modules by name and its data types by qualified name. -/
structure ApiDescription where
  modules : Catalog ServiceModule
  types : Catalog TypeDefinition
deriving DecidableEq

/-- The interface that a controller is generated for: the last one it implements. -/
def Controller.primaryInterface? (c : Controller) : Option ServiceInterface :=
  c.interfaces.getLast?

namespace TypeDefinition

/-- The generic arguments, none for a type that is not generic. -/
def arguments (d : TypeDefinition) : List String := d.genericArguments.getD []

/-- The properties, none for a type that does not list them. -/
def propertyList (d : TypeDefinition) : List Property := d.properties.getD []

/-- The base type, unless its name is empty. -/
def base? (d : TypeDefinition) : Option String := d.baseType.filter (· != "")

/-- The members of an enumeration with their values; a member without a value is left out. -/
def enumMembers (d : TypeDefinition) : List (String × Json) :=
  (d.enumNames.getD []).zip (d.enumValues.getD [])

end TypeDefinition

namespace ApiDescription

/-- The controllers of all modules, in the order of modules and controllers. -/
def controllers (m : ApiDescription) : List Controller :=
  m.modules.values.flatMap fun s => s.controllers.values

end ApiDescription

end ApiProxy
