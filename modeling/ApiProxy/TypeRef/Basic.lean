import ApiProxy.Text.Dotted

/-!
# Type references

A type reference is a tree of plain names, arrays, dictionaries and generic instantiations,
each with an optional nullable mark. Its text is the descriptor that an API description uses
for it: `[T]` for an array, `{K:V}` for a dictionary, `Outer<A,B>` for an instantiation and a
closing question mark for a nullable type.
-/

namespace ApiProxy

open Text

/-- A reference to a type, as an API description names it. -/
inductive TypeRef where
  /-- A plain name, possibly qualified. -/
  | simple (name : String) (nullable : Bool)
  /-- An array of elements of one type. -/
  | array (element : TypeRef) (nullable : Bool)
  /-- A dictionary from keys to values. -/
  | dictionary (key value : TypeRef) (nullable : Bool)
  /-- A generic type with its arguments. -/
  | generic (name : String) (args : List TypeRef) (nullable : Bool)
deriving Repr, Inhabited

namespace TypeRef

/-- The nullable mark of a type: a question mark or nothing. -/
def mark (nullable : Bool) : String :=
  if nullable then "?" else ""

mutual

/-- The descriptor of a type, without blanks. -/
def text : TypeRef → String
  | simple name nullable => name ++ mark nullable
  | array element nullable => "[" ++ element.text ++ "]" ++ mark nullable
  | dictionary key value nullable =>
    "\x7b" ++ key.text ++ ":" ++ value.text ++ "\x7d" ++ mark nullable
  | generic name args nullable =>
    name ++ "<" ++ ",".intercalate (texts args) ++ ">" ++ mark nullable

/-- The descriptors of types, in order. -/
def texts : List TypeRef → List String
  | [] => []
  | t :: ts => t.text :: texts ts

end

/-- Whether a type carries the nullable mark. -/
def isNullable : TypeRef → Bool
  | simple _ nullable | array _ nullable | dictionary _ _ nullable | generic _ _ nullable =>
    nullable

/-- The namespace of the outermost name: an array has that of its elements, a dictionary
has none. -/
def namespace? : TypeRef → Option String
  | simple name _ | generic name _ _ => qualifier? name
  | array element _ => element.namespace?
  | dictionary .. => none

mutual

private def decEq : (t u : TypeRef) → Decidable (t = u)
  | simple m b, simple n c => decidable_of_iff (m = n ∧ b = c) (by simp)
  | array t b, array u c =>
    have := decEq t u
    decidable_of_iff (t = u ∧ b = c) (by simp)
  | dictionary k v b, dictionary l w c =>
    have := decEq k l
    have := decEq v w
    decidable_of_iff (k = l ∧ v = w ∧ b = c) (by simp)
  | generic m ts b, generic n us c =>
    have := decEqList ts us
    decidable_of_iff (m = n ∧ ts = us ∧ b = c) (by simp)
  | simple .., array .. | simple .., dictionary .. | simple .., generic ..
  | array .., simple .. | array .., dictionary .. | array .., generic ..
  | dictionary .., simple .. | dictionary .., array .. | dictionary .., generic ..
  | generic .., simple .. | generic .., array .. | generic .., dictionary .. =>
    .isFalse (by simp)

private def decEqList : (ts us : List TypeRef) → Decidable (ts = us)
  | [], [] => .isTrue rfl
  | t :: ts, u :: us =>
    have := decEq t u
    have := decEqList ts us
    decidable_of_iff (t = u ∧ ts = us) (by simp)
  | [], _ :: _ | _ :: _, [] => .isFalse (by simp)

end

instance : DecidableEq TypeRef := decEq

end TypeRef

end ApiProxy
