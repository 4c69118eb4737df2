import ApiProxy.Json.Basic
import ApiProxy.Text.Decimal
import ApiProxy.Text.Literal

/-!
# Faults of a JSON text

What can be wrong with a text that is read as a JSON document of a given shape: it is no JSON
at all, or a value is of the wrong kind, or the fields of a record are not as they should be.
`Fault.message` is the wording of each.
-/

namespace ApiProxy.Json

/-- A value that was found where another kind of value should be. -/
inductive Found where
  | null
  | bool (b : Bool)
  | number (n : Number)
  | string (s : String)
  | sequence
  | map
deriving DecidableEq, Repr

/-- What is wrong with a text that should be a document. -/
inductive Fault where
  /-- The text ends where a value should stand, or within one. -/
  | endInValue
  /-- The text ends within a string. -/
  | endInString
  /-- The text ends within an array. -/
  | endInList
  /-- The text ends within an object. -/
  | endInObject
  /-- No value can begin with the character that stands here. -/
  | expectedValue
  /-- A misspelt `true`, `false` or `null`. -/
  | expectedIdent
  /-- A name is not followed by a colon. -/
  | expectedColon
  /-- An array goes on with neither a comma nor its bracket. -/
  | expectedListEnd
  /-- An object goes on with neither a comma nor its brace. -/
  | expectedObjectEnd
  /-- A name is not a string. -/
  | nameNotString
  /-- A comma is followed by the closing bracket. -/
  | trailingComma
  /-- Something follows a complete value. -/
  | trailingCharacters
  /-- A number is misspelt. -/
  | invalidNumber
  /-- A number is too large for a double. -/
  | numberOutOfRange
  /-- An unknown escape, or a bad hexadecimal digit in one. -/
  | invalidEscape
  /-- The first half of a surrogate pair is not followed by an escape. -/
  | unexpectedHexEnd
  /-- The second half of a surrogate pair is missing or stands alone. -/
  | loneSurrogate
  /-- A control character stands in a string. -/
  | controlCharacter
  /-- Arrays and objects are nested too deeply. -/
  | tooDeep
  /-- A value of the wrong kind. -/
  | invalidType (found : Found) (expected : String)
  /-- A value of the right kind that is not in the range. -/
  | invalidValue (found : Found) (expected : String)
  /-- A field is given twice. -/
  | duplicateField (name : String)
  /-- A field without a default is not given. -/
  | missingField (name : String)
  /-- A record written as an array has too few elements. -/
  | invalidLength (length : Nat) (expected : String)
  /-- A choice has none of the names it may have. -/
  | unknownVariant (name : String) (allowed : List String)
deriving DecidableEq, Repr

/-- How a found value is described. -/
def Found.text : Found → String
  | null => "null"
  | bool b => "boolean `" ++ String.ofList (boolChars b) ++ "`"
  | number (.integer n) => "integer `" ++ String.ofList (integerChars n) ++ "`"
  | number (.double d) => "floating point `" ++ String.ofList d.chars ++ "`"
  | string s => "string " ++ Text.literal s
  | sequence => "sequence"
  | map => "map"

/-- How the names that a choice may have are listed. -/
def oneOf : List String → String
  | [] => "there are no variants"
  | [a] => "expected `" ++ a ++ "`"
  | [a, b] => "expected `" ++ a ++ "` or `" ++ b ++ "`"
  | names => "expected one of " ++ ", ".intercalate (names.map fun n => "`" ++ n ++ "`")

/-- The wording of a fault. -/
def Fault.message : Fault → String
  | endInValue => "EOF while parsing a value"
  | endInString => "EOF while parsing a string"
  | endInList => "EOF while parsing a list"
  | endInObject => "EOF while parsing an object"
  | expectedValue => "expected value"
  | expectedIdent => "expected ident"
  | expectedColon => "expected `:`"
  | expectedListEnd => "expected `,` or `]`"
  | expectedObjectEnd => "expected `,` or `\x7d`"
  | nameNotString => "key must be a string"
  | trailingComma => "trailing comma"
  | trailingCharacters => "trailing characters"
  | invalidNumber => "invalid number"
  | numberOutOfRange => "number out of range"
  | invalidEscape => "invalid escape"
  | unexpectedHexEnd => "unexpected end of hex escape"
  | loneSurrogate => "lone leading surrogate in hex escape"
  | controlCharacter => "control character (\\u0000-\\u001F) found while parsing a string"
  | tooDeep => "recursion limit exceeded"
  | invalidType found expected => "invalid type: " ++ found.text ++ ", expected " ++ expected
  | invalidValue found expected => "invalid value: " ++ found.text ++ ", expected " ++ expected
  | duplicateField name => "duplicate field `" ++ name ++ "`"
  | missingField name => "missing field `" ++ name ++ "`"
  | invalidLength n expected =>
    "invalid length " ++ Text.decimal n ++ ", expected " ++ expected
  | unknownVariant name allowed => "unknown variant `" ++ name ++ "`, " ++ oneOf allowed

end ApiProxy.Json
