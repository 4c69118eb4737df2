import ApiProxy.CodeTemplate
import ApiProxy.Description.Basic
import ApiProxy.Log
import ApiProxy.Text.Affix
import ApiProxy.Text.Decimal
import ApiProxy.Text.Lines
import ApiProxy.TypeRef.DisplayName
import ApiProxy.TypeRef.Placeholder

/-!
# Data types

Which data types of a description are generated, and how. A type is selected if its name
begins with the namespace of a controller. A wrapper of the framework that is selected stands
for its payload if it has a single argument, and is dropped if it has several. Types of the
system are never generated.

A selected type is generated if the description defines it and its name has a namespace. Its
placeholders are replaced by its generic arguments first. An enumeration lists its members
with their values, any other type its properties.
-/

namespace ApiProxy

open Text

namespace DataType

/-- How the names of the framework's wrappers begin. -/
def wrapperStart : String := "Volo.Abp.Application.Dtos."

/-- How the names of system types begin. -/
def systemStarts : List String := ["System.", "[System."]

/-- The namespaces that every data type imports. -/
def baseImports : List String :=
  ["System", "System.Collections.Generic", "Volo.Abp", "Volo.Abp.Application.Dtos",
    "Volo.Abp.ObjectExtending"]

/-- Whether a name may be that of a wrapper. -/
def looksWrapped (key : String) : Bool :=
  startsWith wrapperStart key && contains "<" key

/-- What a selected name stands for: the payload of a wrapper, nothing for a wrapper with
several arguments, and otherwise the name itself. -/
def payload? (key : String) : Option String :=
  if looksWrapped key then
    match TypeRef.ofDescriptor key with
    | .generic _ [arg] _ => some arg.text
    | .generic .. => none
    | _ => some key
  else some key

/-- Whether a name is that of a system type. -/
def isSystem (key : String) : Bool :=
  systemStarts.any fun start => startsWith start key

/-- The namespaces of the controllers of a description. -/
def controllerNamespaces (m : ApiDescription) : List String :=
  m.controllers.filterMap fun c => namespaceOf? c.type

/-- The names of the defined types that begin with the namespace of a controller. -/
def selectedNames (m : ApiDescription) : List String :=
  m.types.names.filter fun key => (controllerNamespaces m).any fun ns => startsWith ns key

/-- The names of the types to generate, ascending and each once. -/
def keys (m : ApiDescription) : List String :=
  (((selectedNames m).filterMap payload?).filter fun key => !isSystem key).foldl
    (fun names key => addNamespace key names) []

/-- What the selection of the types has to say about wrappers that it drops. -/
def keyNotes (m : ApiDescription) : List LogEntry :=
  (selectedNames m).filterMap fun key =>
    if looksWrapped key then
      match TypeRef.ofDescriptor key with
      | .generic _ [_] _ => none
      | .generic _ args _ =>
        some (LogOrigin.dataType.warn ("Skipping " ++ key ++ ": wrapper has " ++
          decimal args.length ++ " generic arguments, expected one"))
      | _ => none
    else none

end DataType

/-- A data type as it is generated. -/
structure DataType where
  /-- The name under which the description defines it. -/
  key : String
  /-- The descriptor of the type with its placeholders replaced. -/
  name : String
  namespaceName : String
  /-- The name of its file without the extension. -/
  fileStem : String
  content : String
deriving DecidableEq, Repr

namespace DataType

/-- The text of the value of an enumeration member. -/
def enumValue : Json → String
  | .string s => s
  | v => v.compact

/-- The members of an enumeration, as one block without empty lines. -/
def enumBlock (d : TypeDefinition) : List String :=
  if d.enumMembers.isEmpty then []
  else [",\n".intercalate (d.enumMembers.map fun m => m.1 ++ " = " ++ enumValue m.2)]

/-- The descriptor that gives the type of a property: that of the property, or for a generic
definition that of the instantiated type itself. -/
def propertyType (d : TypeDefinition) (name : String) (p : Property) : String :=
  if d.arguments.isEmpty then p.type else name

/-- The declaration of a property. -/
def propertyLine (type name : String) : String :=
  "public " ++ displayNameOf type ++ " " ++ name ++ " \x7b get; set; \x7d"

/-- The members of a data type of the given name. -/
def members (d : TypeDefinition) (name : String) : List String :=
  if d.isEnum then enumBlock d
  else d.propertyList.map fun p => propertyLine (propertyType d name p) p.name

/-- The namespaces that the members of a data type depend on. -/
def memberImports (d : TypeDefinition) (name : String) : ImportSet :=
  if d.isEnum then ∅
  else (d.propertyList.map fun p => importsOf (propertyType d name p)).foldl (· ∪ ·) ∅

/-- The head of the declaration of a data type. -/
def declaration (d : TypeDefinition) (shortName : String) : String :=
  if d.isEnum then "enum " ++ shortName
  else
    match d.base? with
    | none => "class " ++ shortName
    | some base => "class " ++ shortName ++ " : " ++ displayNameOf base

/-- The namespaces that the head of a declaration depends on, the short name apart. -/
def baseTypeImports (d : TypeDefinition) : ImportSet :=
  if d.isEnum then ∅ else (d.base?.map importsOf).getD ∅

/-- The part of a display name before its arguments. -/
def stem (displayName : String) : String :=
  String.ofList (displayName.toList.takeWhile (· != '<'))

/-- The namespaces that a data type imports. -/
def imports (key : String) (d : TypeDefinition) : ImportSet :=
  let type := (TypeRef.ofDescriptor key).instantiate d.arguments
  (ImportSet.ofList baseImports).insertMany (namespaceOf? key).toList ∪ type.imports ∪
    baseTypeImports d ∪ memberImports d type.text

/-- Generate a data type from its definition. -/
def ofDefinition (key : String) (d : TypeDefinition) : Except Failure DataType := do
  let type := (TypeRef.ofDescriptor key).instantiate d.arguments
  let namespaceName := type.namespace?.getD ""
  let content ← DataTypeFile.render
    { imports := (imports key d).render
      namespaceName
      declaration := declaration d type.displayName
      members := memberBlock (members d type.text) }
  return { key, name := type.text, namespaceName, fileStem := stem type.displayName, content }

/-- The definitions to generate, with their names. -/
def definitions (m : ApiDescription) : List (String × TypeDefinition) :=
  (keys m).filterMap fun key =>
    match m.types.get? key with
    | some d => if (namespaceOf? key).isSome then some (key, d) else none
    | none => none

/-- Generate the data types of a description, in ascending order of their names. -/
def ofDescription (m : ApiDescription) : Except Failure (List DataType) :=
  (definitions m).mapM fun e => ofDefinition e.1 e.2

/-- What the generation of one name has to say. -/
def note (m : ApiDescription) (key : String) : LogEntry :=
  match m.types.get? key with
  | none => LogOrigin.dataType.debug ("No definition for " ++ key ++ ", skipping")
  | some d =>
    if (namespaceOf? key).isSome then
      LogOrigin.dataType.debug "Emitted data type"
        [("type_key", literal key),
          ("type_name", ((TypeRef.ofDescriptor key).instantiate d.arguments).text)]
    else LogOrigin.dataType.warn ("Skipping " ++ key ++ ": type name has no namespace")

/-- What the generation of the data types has to say. -/
def notes (m : ApiDescription) : List LogEntry :=
  keyNotes m ++ (keys m).map (note m)

end DataType

end ApiProxy
