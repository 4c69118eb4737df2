import ApiProxy.TypeRef.Descriptor

/-!
# Placeholders of generic definitions

The definition of a generic type names its parameters `T0`, `T1` and so on. Instantiating it
replaces every plain name that is such a placeholder by the argument at its position. Only
whole names are replaced, and a position without an argument stays as it is.
-/

namespace ApiProxy

namespace TypeRef

/-- The value of a run of decimal digits. -/
def decimalValue (digits : List Char) : Nat :=
  digits.foldl (fun n c => n * 10 + (c.toNat - '0'.toNat)) 0

/-- The position of a placeholder: `T` and one or more digits. -/
def placeholder? (name : String) : Option Nat :=
  match name.toList with
  | 'T' :: digits =>
    if !digits.isEmpty && digits.all Char.isDigit then some (decimalValue digits) else none
  | _ => none

/-- The type that takes the place of a placeholder. A plain name takes over the nullable mark
of the placeholder; any other type comes with its own mark only. -/
def ofArgument (argument : String) (nullable : Bool) : TypeRef :=
  match ofDescriptor argument with
  | simple name own => simple name (own || nullable)
  | type => type

mutual

/-- Replace the placeholders in a type by the arguments at their positions. -/
def instantiate (arguments : List String) : TypeRef → TypeRef
  | simple name nullable =>
    match (placeholder? name).bind (arguments[·]?) with
    | some argument => ofArgument argument nullable
    | none => simple name nullable
  | array element nullable => array (element.instantiate arguments) nullable
  | dictionary key value nullable =>
    dictionary (key.instantiate arguments) (value.instantiate arguments) nullable
  | generic name args nullable => generic name (instantiateArgs arguments args) nullable

/-- Replace the placeholders in every type of a list. -/
def instantiateArgs (arguments : List String) : List TypeRef → List TypeRef
  | [] => []
  | t :: ts => t.instantiate arguments :: instantiateArgs arguments ts

end

end TypeRef

end ApiProxy
