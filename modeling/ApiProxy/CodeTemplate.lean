import ApiProxy.Failure

/-!
# The templates of generated files

There are four kinds of generated files, each with its template and the values that fill it:
the stub of a proxy class, which is left to the user, the proxy class itself, a service
interface and a data type. Filling a template with its own values always succeeds; a context
of another shape may lack a value.
-/

namespace ApiProxy

open Template

namespace CodeTemplate

/-- The first line of every file that may be generated again. -/
def heading : String :=
  "// This file is automatically generated by ABP framework to use MVC Controllers from CSharp\n"

/-- The members of a declaration between its braces. Without members there is no line. -/
def body : List Piece :=
  [.text "\n\x7b\n", .block "members" [.slot "members", .text "\n"], .text "\x7d\n"]

/-- The lines from the imports to the namespace. -/
def preamble : List Piece :=
  [.text heading, .slot "usings", .text "\n\n// ReSharper disable once CheckNamespace\nnamespace ",
    .slot "namespace"]

/-- The template of a proxy class. -/
def proxyClass : Template :=
  ⟨"class", preamble ++
    [.text ";\n\n[Dependency(ReplaceServices = true)]\n[ExposeServices(typeof(",
      .slot "service_interface", .text "), typeof(", .slot "class_name", .text "))]\n",
      .block "integration_service" [.text "[IntegrationService]\n"],
      .text "public partial class ", .slot "class_name", .text " : ClientProxyBase<",
      .slot "service_interface", .text ">, ", .slot "service_interface"] ++ body⟩

/-- The template of the stub of a proxy class. -/
def classStub : Template :=
  ⟨"class_stub",
    [.text "// This file is part of ", .slot "class_name",
      .text ", you can customize it here\n// ReSharper disable once CheckNamespace\nnamespace ",
      .slot "namespace", .text ";\n\npublic partial class ", .slot "class_name",
      .text "\n\x7b\n\x7d\n"]⟩

/-- The template of a service interface. -/
def serviceInterface : Template :=
  ⟨"interface", preamble ++
    [.text ";\n\npublic interface ", .slot "service_interface",
      .text " : IApplicationService"] ++ body⟩

/-- The template of a data type. -/
def dataType : Template :=
  ⟨"dto", preamble ++ [.text ";\n\npublic ", .slot "dto_name"] ++ body⟩

/-- All templates of generated files. -/
def all : List Template := [proxyClass, classStub, serviceInterface, dataType]

end CodeTemplate

/-- Fill a template; a value that the context lacks is a failure of that template. -/
def Template.render (t : Template) (context : Json) : Except Failure String :=
  match t.fill context with
  | .ok s => .ok s
  | .error v => .error (.template t.name (.unbound v))

/-- The values in a proxy class. -/
structure ProxyClass where
  imports : String
  namespaceName : String
  className : String
  serviceInterface : String
  isIntegrationService : Bool
  members : String
deriving DecidableEq, Repr

/-- The values in the stub of a proxy class. -/
structure ClassStub where
  namespaceName : String
  className : String
deriving DecidableEq, Repr

/-- The values in the file of a service interface. -/
structure InterfaceFile where
  imports : String
  namespaceName : String
  serviceInterface : String
  members : String
deriving DecidableEq, Repr

/-- The values in the file of a data type. -/
structure DataTypeFile where
  imports : String
  namespaceName : String
  /-- The head of the declaration, from its keyword on. -/
  declaration : String
  members : String
deriving DecidableEq, Repr

/-- The context of a proxy class. -/
def ProxyClass.context (c : ProxyClass) : Json :=
  .object [("usings", .string c.imports), ("namespace", .string c.namespaceName),
    ("class_name", .string c.className), ("service_interface", .string c.serviceInterface),
    ("integration_service", .bool c.isIntegrationService), ("members", .string c.members)]

/-- The text of a proxy class. -/
def ProxyClass.render (c : ProxyClass) : Except Failure String :=
  CodeTemplate.proxyClass.render c.context

/-- The context of a stub. -/
def ClassStub.context (c : ClassStub) : Json :=
  .object [("namespace", .string c.namespaceName), ("class_name", .string c.className)]

/-- The text of a stub. -/
def ClassStub.render (c : ClassStub) : Except Failure String :=
  CodeTemplate.classStub.render c.context

/-- The context of a service interface. -/
def InterfaceFile.context (c : InterfaceFile) : Json :=
  .object [("usings", .string c.imports), ("namespace", .string c.namespaceName),
    ("service_interface", .string c.serviceInterface), ("members", .string c.members)]

/-- The text of a service interface. -/
def InterfaceFile.render (c : InterfaceFile) : Except Failure String :=
  CodeTemplate.serviceInterface.render c.context

/-- The context of a data type. -/
def DataTypeFile.context (c : DataTypeFile) : Json :=
  .object [("usings", .string c.imports), ("namespace", .string c.namespaceName),
    ("dto_name", .string c.declaration), ("members", .string c.members)]

/-- The text of a data type. -/
def DataTypeFile.render (c : DataTypeFile) : Except Failure String :=
  CodeTemplate.dataType.render c.context

end ApiProxy
