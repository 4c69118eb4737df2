import ApiProxy.Failure

/-!
# Output formats

The result of a command is an object that is shown in one of three formats: as indented JSON,
as plain `key: value` lines, or as such lines for people. A list that is the value of a key
stands below it, an item a line; deeper values are compact JSON. For people an underscore in a
key becomes a space, truth values are `yes` and `no`, the null value is a dash, and keys and
values have styles if colours are wanted.
-/

namespace ApiProxy

/-- How the result of a command is shown. -/
inductive OutputFormat where
  | json
  | text
  /-- Lines for people. -/
  | pretty
deriving DecidableEq, Repr

instance : Inhabited OutputFormat := ⟨.pretty⟩

/-- A style for a piece of text on a terminal. -/
inductive Style where
  | bold
  | dimmed
  | green
  | yellow
  | cyan
deriving DecidableEq, Repr

namespace Style

/-- The code that ends all styles. -/
def reset : List Char := ['\x1b', '[', '0', 'm']

/-- The code that begins a style. -/
def code : Style → List Char
  | bold => ['\x1b', '[', '1', 'm']
  | dimmed => ['\x1b', '[', '2', 'm']
  | green => ['\x1b', '[', '3', '2', 'm']
  | yellow => ['\x1b', '[', '3', '3', 'm']
  | cyan => ['\x1b', '[', '3', '6', 'm']

/-- A text in which the code `again` follows every reset. -/
def resume (again : List Char) : List Char → List Char
  | '\x1b' :: '[' :: '0' :: 'm' :: cs => reset ++ again ++ resume again cs
  | c :: cs => c :: resume again cs
  | [] => []

/-- A text in a style. -/
def paint (s : Style) (text : String) : String :=
  String.ofList (s.code ++ resume s.code text.toList ++ reset)

end Style

/-- How the parts of lines are written. -/
structure LineStyle where
  key : String → String
  value : Json → String

namespace LineStyle

/-- A value in plain lines: a string without quotes, nothing for null, else compact JSON. -/
def plainValue : Json → String
  | .string s => s
  | .null => ""
  | v => v.compact

/-- Lines for programs. -/
def plain : LineStyle := ⟨id, plainValue⟩

/-- A text, in a style if colours are wanted. -/
def tint (colored : Bool) (s : Style) (text : String) : String :=
  if colored then s.paint text else text

/-- A key for people. -/
def wordedKey (key : String) : String :=
  String.ofList (key.toList.map fun c => if c = '_' then ' ' else c)

/-- Lines for people. -/
def pretty (colored : Bool) : LineStyle where
  key k := tint colored .bold (wordedKey k)
  value
    | .bool true => tint colored .green "yes"
    | .bool false => tint colored .yellow "no"
    | .number n => tint colored .cyan (String.ofList n.chars)
    | .null => tint colored .dimmed "-"
    | v => plainValue v

/-- The lines for a key and its value. -/
def memberLines (s : LineStyle) (key : String) : Json → List String
  | .array [] => [s.key key ++ ": []"]
  | .array items => (s.key key ++ ":") :: items.map fun v => "  - " ++ s.value v
  | v => [s.key key ++ ": " ++ s.value v]

/-- The lines of a value. -/
def lines (s : LineStyle) : Json → String
  | .object members => "\n".intercalate (members.flatMap fun m => s.memberLines m.1 m.2)
  | v => s.value v

end LineStyle

namespace OutputFormat

/-- The names of the formats. -/
def names : List (String × OutputFormat) :=
  [("json", json), ("text", text), ("pretty", pretty)]

/-- The name of a format. -/
def name : OutputFormat → String
  | json => "json"
  | text => "text"
  | pretty => "pretty"

/-- The format of a name, in which the case of letters does not matter. Only ASCII letters are
folded: no other letter has a letter of these names for its lower case. -/
def ofName (name : String) : Except Failure OutputFormat :=
  let folded := String.ofList (name.toList.map Char.toLower)
  match names.find? (·.1 == folded) with
  | some e => .ok e.2
  | none => .error (.argument (.outputFormat name))

/-- A value in a format. JSON keeps the order of the members, lines sort them by name. -/
def render (f : OutputFormat) (colored : Bool) (data : Json) : String :=
  match f with
  | json => data.indented
  | text => LineStyle.plain.lines data.sorted
  | pretty => (LineStyle.pretty colored).lines data.sorted

end OutputFormat

end ApiProxy
