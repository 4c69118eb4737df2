import ApiProxy.Description.Basic
import ApiProxy.Text.Affix
import ApiProxy.TypeRef.DisplayName

/-!
# Methods of proxies and interfaces

An action becomes a method of a proxy class, and a method of a service interface becomes a
declaration. A method whose name ends in `Async` is asynchronous: it returns a task, and in a
class it forwards its arguments to the remote service. Any other method keeps its return
type, and in a class it only throws.

An asynchronous method has the parameters as they were declared, all of them. Any other
method has each parameter name once, with the type of its first occurrence; in a class they
are the parameters as bound from the request.
-/

namespace ApiProxy

open Text

/-- Whether a method of that name is asynchronous. -/
def isAsync (name : String) : Bool := endsWith "Async" name

/-- A parameter by its name and its type descriptor. -/
structure Parameter where
  name : String
  type : String
deriving DecidableEq, Repr

/-- The name and type of a declared parameter. -/
def MethodParameter.parameter (p : MethodParameter) : Parameter := ⟨p.name, p.type⟩

/-- The name and type of a bound parameter. -/
def BoundParameter.parameter (p : BoundParameter) : Parameter := ⟨p.name, p.type⟩

namespace Parameter

/-- The parameters with only the first of each name, in order. -/
def distinct : List Parameter → List Parameter
  | [] => []
  | p :: ps => p :: (distinct ps).filter (·.name != p.name)

/-- The display name of the type of a parameter. -/
def displayType (p : Parameter) : String := displayNameOf p.type

/-- A parameter in a signature. -/
def formal (p : Parameter) : String := p.displayType ++ " " ++ p.name

/-- A parameter list without its parentheses. -/
def signature (ps : List Parameter) : String := ", ".intercalate (ps.map formal)

/-- The entry of a parameter in the values of a request. -/
def requestEntry (p : Parameter) : String :=
  "        \x7b typeof(" ++ p.displayType ++ "), " ++ p.name ++ " \x7d"

/-- The values of a request: one entry per parameter, or nothing at all. -/
def requestValues (ps : List Parameter) : String :=
  if ps.isEmpty then ""
  else
    ", new ClientProxyRequestTypeValue\n    \x7b\n" ++ ",\n".intercalate (ps.map requestEntry) ++
      "\n    \x7d"

end Parameter

/-- The name under which "no result" is displayed. -/
def void : String := "void"

/-- The display name of a return type; a blank descriptor stands for no result. -/
def returnName (descriptor : String) : String :=
  if allBlank descriptor then void else displayNameOf descriptor

/-- The namespaces that a return type depends on. -/
def returnImports (descriptor : String) : ImportSet :=
  if allBlank descriptor then ∅ else importsOf descriptor

/-- The task that stands for a result of the given type. -/
def taskOf (returnName : String) : String :=
  if returnName = void then "Task" else "Task<" ++ returnName ++ ">"

/-- A member of a generated type: its text, unindented and without a last line end, and the
namespaces that it depends on. -/
structure Member where
  text : String
  imports : ImportSet
deriving DecidableEq

/-- The namespaces that a method depends on. -/
def methodImports (returnType : String) (ps : List Parameter) : ImportSet :=
  (ps.map fun p => importsOf p.type).foldl (· ∪ ·) (returnImports returnType)

/-- A method of a class that cannot be called. -/
def throwingMethod (name returns : String) (ps : List Parameter) : String :=
  "public virtual " ++ returns ++ " " ++ name ++ "(" ++ Parameter.signature ps ++ ")\n\x7b\n" ++
    "    //Client Proxy does not support the synchronization method, " ++
    "you should always use asynchronous methods as a best practice\n" ++
    "    throw new System.NotImplementedException();\n\x7d"

/-- The call of the remote service in a forwarding method. -/
def remoteCall (name returns : String) (ps : List Parameter) : String :=
  if returns = void then
    "await RequestAsync(nameof(" ++ name ++ ")" ++ Parameter.requestValues ps ++ ");"
  else
    "return await RequestAsync<" ++ returns ++ ">(nameof(" ++ name ++ ")" ++
      Parameter.requestValues ps ++ ");"

/-- A method of a class that forwards its arguments to the remote service. -/
def forwardingMethod (name returns : String) (ps : List Parameter) : String :=
  "public virtual async " ++ taskOf returns ++ " " ++ name ++ "(" ++ Parameter.signature ps ++
    ")\n\x7b\n    " ++ remoteCall name returns ps ++ "\n\x7d"

/-- The parameters that the method of an action takes. -/
def Action.formals (a : Action) : List Parameter :=
  if isAsync a.name then a.parametersOnMethod.map (·.parameter)
  else Parameter.distinct (a.parameters.map (·.parameter))

/-- The method of a proxy class for an action. -/
def Action.member (a : Action) : Member :=
  { text :=
      if isAsync a.name then forwardingMethod a.name (returnName a.returnValue.type) a.formals
      else throwingMethod a.name (returnName a.returnValue.type) a.formals
    imports := methodImports a.returnValue.type a.formals }

/-- The parameters that a method of an interface takes. -/
def InterfaceMethod.formals (m : InterfaceMethod) : List Parameter :=
  if isAsync m.name then m.parametersOnMethod.map (·.parameter)
  else Parameter.distinct (m.parametersOnMethod.map (·.parameter))

/-- The declaration of a method in a service interface. -/
def InterfaceMethod.member (m : InterfaceMethod) : Member :=
  let returns := returnName m.returnValue.type
  { text :=
      (if isAsync m.name then taskOf returns else "public " ++ returns) ++ " " ++ m.name ++
        "(" ++ Parameter.signature m.formals ++ ");"
    imports := methodImports m.returnValue.type m.formals }

end ApiProxy
