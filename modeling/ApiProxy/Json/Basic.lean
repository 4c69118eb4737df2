import ApiProxy.Catalog
import ApiProxy.Json.Double.Shortest

/-!
# JSON values and their text

A value keeps integers and doubles apart. The members of an object are a list, so a value
also says in which order they are written; an object whose order carries no meaning lists its
members in ascending order of their names (`Json.sorted`).

There are two texts of a value: the compact one without blanks, and the indented one with a
line per element, two spaces per level, and `{}` and `[]` for empty containers. A string
escapes the quote, the backslash and the control characters below the space, and nothing else.
-/

namespace ApiProxy

/-- A number of a JSON text: an integer of at most 64 bits or a double. -/
inductive Json.Number where
  | integer (n : Int)
  | double (d : Json.Double)
deriving DecidableEq, Repr, Inhabited

/-- A JSON value. -/
inductive Json where
  | null
  | bool (b : Bool)
  | number (n : Json.Number)
  | string (s : String)
  | array (items : List Json)
  | object (members : List (String × Json))
deriving Repr, Inhabited

namespace Json

mutual

private def decEq : (v w : Json) → Decidable (v = w)
  | null, null => .isTrue rfl
  | bool a, bool b => decidable_of_iff (a = b) (by simp)
  | number a, number b => decidable_of_iff (a = b) (by simp)
  | string a, string b => decidable_of_iff (a = b) (by simp)
  | array vs, array ws =>
    have := decEqItems vs ws
    decidable_of_iff (vs = ws) (by simp)
  | object ms, object ns =>
    have := decEqMembers ms ns
    decidable_of_iff (ms = ns) (by simp)
  | null, bool _ | null, number _ | null, string _ | null, array _ | null, object _
  | bool _, null | bool _, number _ | bool _, string _ | bool _, array _ | bool _, object _
  | number _, null | number _, bool _ | number _, string _ | number _, array _
  | number _, object _
  | string _, null | string _, bool _ | string _, number _ | string _, array _
  | string _, object _
  | array _, null | array _, bool _ | array _, number _ | array _, string _ | array _, object _
  | object _, null | object _, bool _ | object _, number _ | object _, string _
  | object _, array _ => .isFalse (by simp)

private def decEqItems : (vs ws : List Json) → Decidable (vs = ws)
  | [], [] => .isTrue rfl
  | v :: vs, w :: ws =>
    have := decEq v w
    have := decEqItems vs ws
    decidable_of_iff (v = w ∧ vs = ws) (by simp)
  | [], _ :: _ | _ :: _, [] => .isFalse (by simp)

private def decEqMembers : (ms ns : List (String × Json)) → Decidable (ms = ns)
  | [], [] => .isTrue rfl
  | (a, v) :: ms, (b, w) :: ns =>
    have := decEq v w
    have := decEqMembers ms ns
    decidable_of_iff (a = b ∧ v = w ∧ ms = ns) (by simp [and_assoc])
  | [], _ :: _ | _ :: _, [] => .isFalse (by simp)

end

instance : DecidableEq Json := decEq

/-- An integer as a value. -/
def ofInt (n : Int) : Json := number (.integer n)

/-- A string or `null`. -/
def ofString? : Option String → Json
  | some s => string s
  | none => null

/-- Strings as an array. -/
def ofStrings (ss : List String) : Json := array (ss.map string)

/-- The value under a name, in the first member that has it. -/
def get? : Json → String → Option Json
  | object members, name => (members.find? (·.1 == name)).map (·.2)
  | _, _ => none

mutual

/-- The value with the members of every object in ascending order of their names; of two
members with one name the later stays. -/
def sorted : Json → Json
  | array items => array (sortedItems items)
  | object members => object (sortedMembers [] members)
  | value => value

/-- The values of an array, each sorted. -/
def sortedItems : List Json → List Json
  | [] => []
  | v :: vs => v.sorted :: sortedItems vs

/-- Put sorted members one after the other into members that ascend. -/
def sortedMembers (acc : List (String × Json)) : List (String × Json) → List (String × Json)
  | [] => acc
  | (name, v) :: ms => sortedMembers (putAscending name v.sorted acc) ms

end

/-- A hexadecimal digit in lower case. -/
def hexDigit (n : Nat) : Char :=
  Nat.digitChar (n % 16)

/-- How a character stands in a string. -/
def escaped (c : Char) : List Char :=
  match c with
  | '"' => ['\\', '"']
  | '\\' => ['\\', '\\']
  | '\x08' => ['\\', 'b']
  | '\x0c' => ['\\', 'f']
  | '\n' => ['\\', 'n']
  | '\r' => ['\\', 'r']
  | '\t' => ['\\', 't']
  | c =>
    if c.toNat < 0x20 then
      ['\\', 'u', '0', '0', hexDigit (c.toNat / 16), hexDigit c.toNat]
    else [c]

/-- A string in quotes. -/
def quoted (s : String) : List Char :=
  '"' :: (s.toList.flatMap escaped ++ ['"'])

/-- The text of an integer: decimal digits behind an optional minus sign. -/
def integerChars (n : Int) : List Char :=
  if n < 0 then '-' :: Nat.toDigits 10 n.natAbs else Nat.toDigits 10 n.natAbs

/-- The text of a number. -/
def Number.chars : Number → List Char
  | .integer n => integerChars n
  | .double d => d.chars

/-- The text of a boolean. -/
def boolChars (b : Bool) : List Char :=
  if b then ['t', 'r', 'u', 'e'] else ['f', 'a', 'l', 's', 'e']

mutual

/-- The text of a value without blanks. -/
def compactChars : Json → List Char
  | null => ['n', 'u', 'l', 'l']
  | bool b => boolChars b
  | number n => n.chars
  | string s => quoted s
  | array [] => ['[', ']']
  | array (v :: vs) => '[' :: (v.compactChars ++ compactItems vs)
  | object [] => ['\x7b', '\x7d']
  | object ((name, v) :: ms) =>
    '\x7b' :: (quoted name ++ ':' :: (v.compactChars ++ compactMembers ms))

/-- The elements of an array behind the first one, and the closing bracket. -/
def compactItems : List Json → List Char
  | [] => [']']
  | v :: vs => ',' :: (v.compactChars ++ compactItems vs)

/-- The members of an object behind the first one, and the closing brace. -/
def compactMembers : List (String × Json) → List Char
  | [] => ['\x7d']
  | (name, v) :: ms =>
    ',' :: (quoted name ++ ':' :: (v.compactChars ++ compactMembers ms))

end

/-- A line break and the indentation of a level. -/
def newLine (level : Nat) : List Char :=
  '\n' :: List.replicate (2 * level) ' '

mutual

/-- The text of a value with one element or member a line, at the given level. -/
def indentedChars (level : Nat) : Json → List Char
  | null => ['n', 'u', 'l', 'l']
  | bool b => boolChars b
  | number n => n.chars
  | string s => quoted s
  | array [] => ['[', ']']
  | array (v :: vs) =>
    '[' :: (newLine (level + 1) ++ (v.indentedChars (level + 1) ++ indentedItems level vs))
  | object [] => ['\x7b', '\x7d']
  | object ((name, v) :: ms) =>
    '\x7b' :: (newLine (level + 1) ++ (quoted name ++ ':' :: ' ' ::
      (v.indentedChars (level + 1) ++ indentedMembers level ms)))

/-- The lines of an array behind its first element. -/
def indentedItems (level : Nat) : List Json → List Char
  | [] => newLine level ++ [']']
  | v :: vs =>
    ',' :: (newLine (level + 1) ++ (v.indentedChars (level + 1) ++ indentedItems level vs))

/-- The lines of an object behind its first member. -/
def indentedMembers (level : Nat) : List (String × Json) → List Char
  | [] => newLine level ++ ['\x7d']
  | (name, v) :: ms =>
    ',' :: (newLine (level + 1) ++ (quoted name ++ ':' :: ' ' ::
      (v.indentedChars (level + 1) ++ indentedMembers level ms)))

end

/-- The text of a value without blanks. -/
def compact (v : Json) : String := String.ofList v.compactChars

/-- The text of a value with one element or member a line. -/
def indented (v : Json) : String := String.ofList (v.indentedChars 0)

end Json

end ApiProxy
