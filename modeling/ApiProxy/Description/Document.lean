import ApiProxy.Description.Basic
import ApiProxy.Json.Codec

/-!
# API descriptions as documents

The fields of each part of an API description, in the order in which they are written. A part
that leaves a field out has its default: an empty text, `false`, no value or an empty
container. A description is written with two-space indentation and all fields present.
-/

namespace ApiProxy

open Json Json.Codec

namespace MethodParameter

/-- A parameter with nothing given. -/
def blank : MethodParameter := ⟨"", none, "", none, false, none⟩

/-- A declared parameter in a document. -/
def codec : Codec MethodParameter :=
  record "MethodParameterApiDescriptionModel" blank
    [ field "name" text (·.name) fun v x => { x with name := v },
      field "typeAsString" (nullable text) (·.typeAsString) fun v x =>
        { x with typeAsString := v },
      field "type" text (·.type) fun v x => { x with type := v },
      field "typeSimple" (nullable text) (·.typeSimple) fun v x => { x with typeSimple := v },
      field "isOptional" flag (·.isOptional) fun v x => { x with isOptional := v },
      field "defaultValue" (nullable any) (·.defaultValue) fun v x =>
        { x with defaultValue := v } ]

end MethodParameter

namespace BoundParameter

/-- A parameter with nothing given. -/
def blank : BoundParameter := ⟨"", "", none, "", none, false, none, none, none, none⟩

/-- A bound parameter in a document. -/
def codec : Codec BoundParameter :=
  record "ParameterApiDescriptionModel" blank
    [ field "nameOnMethod" text (·.nameOnMethod) fun v x => { x with nameOnMethod := v },
      field "name" text (·.name) fun v x => { x with name := v },
      field "jsonName" (nullable text) (·.jsonName) fun v x => { x with jsonName := v },
      field "type" text (·.type) fun v x => { x with type := v },
      field "typeSimple" (nullable text) (·.typeSimple) fun v x => { x with typeSimple := v },
      field "isOptional" flag (·.isOptional) fun v x => { x with isOptional := v },
      field "defaultValue" (nullable any) (·.defaultValue) fun v x =>
        { x with defaultValue := v },
      field "constraintTypes" (nullable (list text)) (·.constraintTypes) fun v x =>
        { x with constraintTypes := v },
      field "bindingSourceId" (nullable text) (·.bindingSourceId) fun v x =>
        { x with bindingSourceId := v },
      field "descriptorName" (nullable text) (·.descriptorName) fun v x =>
        { x with descriptorName := v } ]

end BoundParameter

namespace ReturnValue

/-- A return value with nothing given. -/
def blank : ReturnValue := ⟨"", none⟩

/-- A return value in a document. -/
def codec : Codec ReturnValue :=
  record "ReturnValueApiDescriptionModel" blank
    [ field "type" text (·.type) fun v x => { x with type := v },
      field "typeSimple" (nullable text) (·.typeSimple) fun v x => { x with typeSimple := v } ]

end ReturnValue

namespace InterfaceMethod

/-- A method with nothing given. -/
def blank : InterfaceMethod := ⟨"", [], .blank⟩

/-- A method of an interface in a document. -/
def codec : Codec InterfaceMethod :=
  record "InterfaceMethodApiDescriptionModel" blank
    [ field "name" text (·.name) fun v x => { x with name := v },
      field "parametersOnMethod" (list MethodParameter.codec) (·.parametersOnMethod) fun v x =>
        { x with parametersOnMethod := v },
      field "returnValue" ReturnValue.codec (·.returnValue) fun v x =>
        { x with returnValue := v } ]

end InterfaceMethod

namespace ServiceInterface

/-- An interface with nothing given. -/
def blank : ServiceInterface := ⟨"", none, []⟩

/-- A service interface in a document. -/
def codec : Codec ServiceInterface :=
  record "ControllerInterfaceApiDescriptionModel" blank
    [ field "type" text (·.type) fun v x => { x with type := v },
      field "name" (nullable text) (·.name) fun v x => { x with name := v },
      field "methods" (list InterfaceMethod.codec) (·.methods) fun v x =>
        { x with methods := v } ]

end ServiceInterface

namespace Action

/-- An action with nothing given. -/
def blank : Action := ⟨"", "", none, none, [], [], [], .blank, none, ""⟩

/-- An action in a document. -/
def codec : Codec Action :=
  record "ActionApiDescriptionModel" blank
    [ field "uniqueName" text (·.uniqueName) fun v x => { x with uniqueName := v },
      field "name" text (·.name) fun v x => { x with name := v },
      field "httpMethod" (nullable text) (·.httpMethod) fun v x => { x with httpMethod := v },
      field "url" (nullable text) (·.url) fun v x => { x with url := v },
      field "supportedVersions" (list text) (·.supportedVersions) fun v x =>
        { x with supportedVersions := v },
      field "parametersOnMethod" (list MethodParameter.codec) (·.parametersOnMethod) fun v x =>
        { x with parametersOnMethod := v },
      field "parameters" (list BoundParameter.codec) (·.parameters) fun v x =>
        { x with parameters := v },
      field "returnValue" ReturnValue.codec (·.returnValue) fun v x =>
        { x with returnValue := v },
      field "allowAnonymous" (nullable flag) (·.allowAnonymous) fun v x =>
        { x with allowAnonymous := v },
      field "implementFrom" text (·.implementFrom) fun v x => { x with implementFrom := v } ]

end Action

namespace Controller

/-- A controller with nothing given. -/
def blank : Controller := ⟨"", none, false, false, none, "", [], .empty⟩

/-- A controller in a document. -/
def codec : Codec Controller :=
  record "ControllerApiDescriptionModel" blank
    [ field "controllerName" text (·.controllerName) fun v x => { x with controllerName := v },
      field "controllerGroupName" (nullable text) (·.controllerGroupName) fun v x =>
        { x with controllerGroupName := v },
      field "isRemoteService" flag (·.isRemoteService) fun v x =>
        { x with isRemoteService := v },
      field "isIntegrationService" flag (·.isIntegrationService) fun v x =>
        { x with isIntegrationService := v },
      field "apiVersion" (nullable text) (·.apiVersion) fun v x => { x with apiVersion := v },
      field "type" text (·.type) fun v x => { x with type := v },
      field "interfaces" (list ServiceInterface.codec) (·.interfaces) fun v x =>
        { x with interfaces := v },
      field "actions" (catalog Action.codec) (·.actions) fun v x => { x with actions := v } ]

end Controller

namespace ServiceModule

/-- A module with nothing given. -/
def blank : ServiceModule := ⟨"", "", .empty⟩

/-- A module in a document. -/
def codec : Codec ServiceModule :=
  record "ModuleApiDescriptionModel" blank
    [ field "rootPath" text (·.rootPath) fun v x => { x with rootPath := v },
      field "remoteServiceName" text (·.remoteServiceName) fun v x =>
        { x with remoteServiceName := v },
      field "controllers" (catalog Controller.codec) (·.controllers) fun v x =>
        { x with controllers := v } ]

end ServiceModule

namespace Property

/-- A property with nothing given. -/
def blank : Property := ⟨"", none, "", none, false, none, none, none, none, none⟩

/-- A property in a document. -/
def codec : Codec Property :=
  record "PropertyApiDescriptionModel" blank
    [ field "name" text (·.name) fun v x => { x with name := v },
      field "jsonName" (nullable text) (·.jsonName) fun v x => { x with jsonName := v },
      field "type" text (·.type) fun v x => { x with type := v },
      field "typeSimple" (nullable text) (·.typeSimple) fun v x => { x with typeSimple := v },
      field "isRequired" flag (·.isRequired) fun v x => { x with isRequired := v },
      field "minLength" (nullable word) (·.minLength) fun v x => { x with minLength := v },
      field "maxLength" (nullable word) (·.maxLength) fun v x => { x with maxLength := v },
      field "minimum" (nullable text) (·.minimum) fun v x => { x with minimum := v },
      field "maximum" (nullable text) (·.maximum) fun v x => { x with maximum := v },
      field "regex" (nullable text) (·.regex) fun v x => { x with regex := v } ]

end Property

namespace TypeDefinition

/-- A definition with nothing given. -/
def blank : TypeDefinition := ⟨none, false, none, none, none, none⟩

/-- The definition of a data type in a document. -/
def codec : Codec TypeDefinition :=
  record "TypeApiDescriptionModel" blank
    [ field "baseType" (nullable text) (·.baseType) fun v x => { x with baseType := v },
      field "isEnum" flag (·.isEnum) fun v x => { x with isEnum := v },
      field "enumNames" (nullable (list text)) (·.enumNames) fun v x =>
        { x with enumNames := v },
      field "enumValues" (nullable (list any)) (·.enumValues) fun v x =>
        { x with enumValues := v },
      field "genericArguments" (nullable (list text)) (·.genericArguments) fun v x =>
        { x with genericArguments := v },
      field "properties" (nullable (list Property.codec)) (·.properties) fun v x =>
        { x with properties := v } ]

end TypeDefinition

namespace ApiDescription

/-- A description with nothing in it. -/
def blank : ApiDescription := ⟨.empty, .empty⟩

/-- An API description as a document. -/
def codec : Codec ApiDescription :=
  record "ApplicationApiDescriptionModel" blank
    [ field "modules" (catalog ServiceModule.codec) (·.modules) fun v x =>
        { x with modules := v },
      field "types" (catalog TypeDefinition.codec) (·.types) fun v x => { x with types := v } ]

/-- Read an API description from its document. -/
def ofText (document : String) : Except Fault ApiDescription :=
  codec.ofText document

/-- Write an API description as a document. -/
def text (m : ApiDescription) : String :=
  (codec.write m).indented

end ApiDescription

end ApiProxy
