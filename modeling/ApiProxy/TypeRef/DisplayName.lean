import ApiProxy.ImportSet
import ApiProxy.Text.Affix
import ApiProxy.TypeRef.Descriptor

/-!
# Display names

The name under which a type is written in generated C# code: every qualified name is cut to
its last segment, an array is `T[]`, a dictionary `Dictionary<K,V>`, and the built-in types
go by their keywords. The keywords are not used inside the arguments of a generic type. The
namespaces that were cut off are the imports which the display name depends on.
-/

namespace ApiProxy

open Text

/-- The C# keyword of a built-in type, by its short name. -/
def keyword? : String → Option String
  | "Void" => some "void"
  | "Boolean" => some "bool"
  | "String" => some "string"
  | "Int32" => some "int"
  | "Int64" => some "long"
  | "Double" => some "double"
  | "Object" => some "object"
  | "Byte" => some "byte"
  | "Char" => some "char"
  | _ => none

namespace TypeRef

/-- The last segment of a name, replaced by the keyword of a built-in type if asked for. -/
def shortName (keywords : Bool) (name : String) : String :=
  if keywords then (keyword? (lastSegment name)).getD (lastSegment name) else lastSegment name

mutual

/-- The display name of a type, with or without the keywords of built-in types. -/
def displayWith (keywords : Bool) : TypeRef → String
  | simple name nullable => shortName keywords name ++ mark nullable
  | array element nullable => element.displayWith keywords ++ "[]" ++ mark nullable
  | dictionary key value nullable =>
    "Dictionary<" ++ key.displayWith keywords ++ "," ++ value.displayWith keywords ++ ">" ++
      mark nullable
  | generic name args nullable =>
    lastSegment name ++ "<" ++ ",".intercalate (displayArgs args) ++ ">" ++ mark nullable

/-- The display names of the arguments of a generic type. -/
def displayArgs : List TypeRef → List String
  | [] => []
  | t :: ts => t.displayWith false :: displayArgs ts

end

mutual

/-- The qualifiers of all names in a type, from left to right. -/
def qualifiers : TypeRef → List String
  | simple name _ => (qualifier? name).toList
  | array element _ => element.qualifiers
  | dictionary key value _ => key.qualifiers ++ value.qualifiers
  | generic name args _ => (qualifier? name).toList ++ qualifiersOfArgs args

/-- The qualifiers of all names in a list of types. -/
def qualifiersOfArgs : List TypeRef → List String
  | [] => []
  | t :: ts => t.qualifiers ++ qualifiersOfArgs ts

end

/-- The name under which a type is written in generated code. -/
def displayName (t : TypeRef) : String :=
  t.displayWith true

/-- The namespaces that the display name of a type depends on. -/
def imports (t : TypeRef) : ImportSet :=
  .ofList t.qualifiers

end TypeRef

/-- The display name of the type that a descriptor stands for. -/
def displayNameOf (descriptor : String) : String :=
  (TypeRef.ofDescriptor descriptor).displayName

/-- The namespaces that the display name of a descriptor's type depends on. -/
def importsOf (descriptor : String) : ImportSet :=
  (TypeRef.ofDescriptor descriptor).imports

/-- Take away one closing question mark. -/
def splitMark (name : String) : String × Bool :=
  if name.toList.getLast? = some '?' then (String.ofList name.toList.dropLast, true)
  else (name, false)

/-- The keyword of a built-in type named in short or under `System`, with its nullable mark;
any other name as it is. -/
def builtInName (name : String) : String :=
  let (bare, nullable) := splitMark name
  match keyword? ((afterStart? "System." bare).getD bare) with
  | some keyword => keyword ++ TypeRef.mark nullable
  | none => name

end ApiProxy
