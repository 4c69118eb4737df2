import ApiProxy.DataType
import ApiProxy.Method
import ApiProxy.SourceFile

/-!
# Generating the files of a description

Every controller whose primary interface names a service gets the stub of a proxy class and
the class itself and, with contracts, the file of its interface. With contracts every
selected data type gets a file too. A file stands in a folder for its namespace, or all files
stand in one folder.
-/

namespace ApiProxy

open Text

/-- Where files are placed below the output folder. -/
inductive Arrangement where
  /-- In nested folders that follow the namespace of a file. -/
  | namespaced
  /-- All in one folder. -/
  | flat
deriving DecidableEq, Repr

/-- What is generated and where it is placed. -/
structure GeneratorOptions where
  arrangement : Arrangement
  /-- Whether service interfaces and data types are generated. -/
  withContracts : Bool
deriving DecidableEq, Repr

/-- The ends by which the name of a service is known, in the order in which they are tried. -/
def serviceEndings : List String :=
  ["AppService", "ApplicationService", "IntService", "IntegrationService", "Service"]

/-- The namespace of the framework's own service interfaces. -/
def frameworkServices : String := "Volo.Abp.Application.Services"

/-- The namespaces that every proxy class imports. -/
def proxyClassImports : List String :=
  ["System", "System.Collections.Generic", "System.Threading.Tasks", "Volo.Abp",
    "Volo.Abp.Application.Dtos", "Volo.Abp.Http.Client", "Volo.Abp.Http.Modeling",
    "Volo.Abp.DependencyInjection", "Volo.Abp.Http.Client.ClientProxying"]

/-- The namespaces that every service interface imports. -/
def interfaceImports : List String :=
  ["System", "System.Collections.Generic", "System.Threading.Tasks", "Volo.Abp",
    "Volo.Abp.Application.Dtos", "Volo.Abp.Application.Services"]

/-- The first service ending that a name has. -/
def serviceEnding? (name : String) : Option String :=
  serviceEndings.find? fun e => endsWith e name

/-- Whether a name follows the convention for service interfaces: it begins with `I` and has
a service ending somewhere in it. -/
def isServiceInterfaceName (name : String) : Bool :=
  startsWith "I" name && serviceEndings.any fun e => contains e name

namespace Controller

/-- Whether the primary interface of a controller names a service. -/
def isService (c : Controller) : Bool :=
  match c.primaryInterface? with
  | some i => (serviceEnding? i.type).isSome
  | none => false

/-- The name of the proxy class of a controller. -/
def className (c : Controller) : String := c.controllerName ++ "ClientProxy"

/-- The namespace of the files of a controller. -/
def namespaceName (c : Controller) : String := (namespaceOf? c.type).getD ""

end Controller

/-- Whether an action belongs on the proxy of a service interface: the framework's services
or that interface declare it, or something that is named like a service interface does. -/
def Action.belongsTo (a : Action) (interfaceType : String) : Bool :=
  startsWith frameworkServices a.implementFrom || startsWith interfaceType a.implementFrom ||
    isServiceInterfaceName (displayNameOf a.implementFrom)

/-- The folder of a namespace: its dots are slashes. -/
def namespaceFolder (ns : String) : String :=
  String.ofList (ns.toList.map fun c => if c = '.' then '/' else c)

/-- The path of a file of the given namespace. -/
def Arrangement.path (a : Arrangement) (ns fileName : String) : String :=
  match a with
  | namespaced => if ns = "" then fileName else namespaceFolder ns ++ "/" ++ fileName
  | flat => fileName

/-- The namespaces that members depend on, together with those of a base. -/
def Member.collectImports (base : ImportSet) (ms : List Member) : ImportSet :=
  ms.foldl (fun s m => s ∪ m.imports) base

/-- The members of a declaration as one block. -/
def Member.block (ms : List Member) : String :=
  memberBlock (ms.map (·.text))

namespace Controller

/-- The actions that become methods of the proxy for an interface. -/
def proxyActions (c : Controller) (i : ServiceInterface) : List Action :=
  c.actions.values.filter (·.belongsTo i.type)

/-- The file of the stub of a proxy class. -/
def stubFile (a : Arrangement) (c : Controller) : Except Failure SourceFile := do
  let content ← ClassStub.render { namespaceName := c.namespaceName, className := c.className }
  return .ofKind (a.path c.namespaceName (c.className ++ ".cs")) content .classStub

/-- The file of a proxy class for an interface. -/
def classFile (a : Arrangement) (c : Controller) (i : ServiceInterface) :
    Except Failure SourceFile := do
  let members := (c.proxyActions i).map (·.member)
  let base := (ImportSet.ofList proxyClassImports).insertMany (namespaceOf? i.type).toList
  let content ← ProxyClass.render
    { imports := (Member.collectImports base members).render
      namespaceName := c.namespaceName
      className := c.className
      serviceInterface := lastSegment i.type
      isIntegrationService := c.isIntegrationService
      members := Member.block members }
  return .ofKind (a.path c.namespaceName (c.className ++ ".Generated.cs")) content .proxyClass

/-- The file of a service interface. -/
def interfaceFile (a : Arrangement) (c : Controller) (i : ServiceInterface) :
    Except Failure SourceFile := do
  let members := i.methods.map (·.member)
  let base := (ImportSet.ofList interfaceImports).insertMany (namespaceOf? i.type).toList
  let content ← InterfaceFile.render
    { imports := (Member.collectImports base members).render
      namespaceName := c.namespaceName
      serviceInterface := lastSegment i.type
      members := Member.block members }
  return .ofKind (a.path c.namespaceName (lastSegment i.type ++ ".cs")) content .serviceInterface

/-- The files of a controller: none if it implements no interface. -/
def files (o : GeneratorOptions) (c : Controller) : Except Failure (List SourceFile) :=
  match c.primaryInterface? with
  | none => .ok []
  | some i => do
    let stub ← c.stubFile o.arrangement
    let proxy ← c.classFile o.arrangement i
    if o.withContracts then
      let contract ← c.interfaceFile o.arrangement i
      return [stub, proxy, contract]
    else return [stub, proxy]

/-- A remark on a method without a return type. -/
def returnNote (name type : String) : List LogEntry :=
  if allBlank type then
    [LogOrigin.method.warn ("Method " ++ name ++ " has no return type, emitting void")]
  else []

/-- What the generation of the files of a controller has to say. -/
def notes (o : GeneratorOptions) (c : Controller) : List LogEntry :=
  match c.primaryInterface? with
  | none => []
  | some i =>
    (c.actions.values.flatMap fun a =>
      if a.belongsTo i.type then returnNote a.name a.returnValue.type
      else
        [LogOrigin.generator.debug "Skipping action not declared by a service"
          [("action", a.name)]]) ++
    (if o.withContracts then i.methods.flatMap fun m => returnNote m.name m.returnValue.type
      else []) ++
    [LogOrigin.generator.debug "Generated controller proxy"
      [("controller", c.controllerName), ("files", if o.withContracts then "3" else "2")]]

end Controller

namespace ApiDescription

/-- The controllers that files are generated for. -/
def serviceControllers (m : ApiDescription) : List Controller :=
  m.controllers.filter (·.isService)

/-- The files of all controllers. -/
def controllerFiles (o : GeneratorOptions) (m : ApiDescription) :
    Except Failure (List SourceFile) := do
  let parts ← m.serviceControllers.mapM fun c => c.files o
  return parts.flatten

/-- The files of all data types. -/
def dataTypeFiles (o : GeneratorOptions) (m : ApiDescription) :
    Except Failure (List SourceFile) := do
  let types ← DataType.ofDescription m
  return types.map fun t =>
    .ofKind (o.arrangement.path t.namespaceName (t.fileStem ++ ".cs")) t.content .dataType

/-- All files of a description: those of the controllers and then, with contracts, those of
the data types. -/
def generate (o : GeneratorOptions) (m : ApiDescription) : Except Failure (List SourceFile) := do
  let controllers ← m.controllerFiles o
  if o.withContracts then
    let types ← m.dataTypeFiles o
    return controllers ++ types
  else return controllers

/-- What the generation of the files of all controllers has to say. -/
def controllerNotes (o : GeneratorOptions) (m : ApiDescription) : List LogEntry :=
  m.controllers.flatMap fun c =>
    if c.isService then c.notes o
    else [LogOrigin.generator.debug "Skipping controller without a service interface"
      [("controller", c.controllerName)]]

end ApiDescription

end ApiProxy
