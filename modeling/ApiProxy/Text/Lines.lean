/-!
# Lines of a text

A line ends with a line feed, or with a carriage return and a line feed, neither of which
belongs to it. The last line may lack its end; a text that closes with one has no further,
empty line behind it, and an empty text has no line at all. A carriage return elsewhere is a
character like any other.
-/

namespace ApiProxy.Text

/-- A line whose line feed was taken off, without the carriage return before that. -/
def dropReturn (line : List Char) : List Char :=
  if line.getLast? = some '\r' then line.dropLast else line

/-- The lines of a text behind the beginning `start` of the first one. -/
def linesFrom (start : List Char) : List Char → List (List Char)
  | [] => if start.isEmpty then [] else [start.reverse]
  | c :: cs =>
    if c = '\n' then dropReturn start.reverse :: linesFrom [] cs
    else linesFrom (c :: start) cs

/-- The lines of a text. -/
def lines (cs : List Char) : List (List Char) := linesFrom [] cs

/-- A line with four spaces in front; an empty line stays empty. -/
def indentLine (line : List Char) : List Char :=
  if line.isEmpty then [] else ' ' :: ' ' :: ' ' :: ' ' :: line

/-- A text with every line indented by four spaces, and without its last line end. -/
def indent (text : String) : String :=
  "\n".intercalate ((lines text.toList).map fun line => String.ofList (indentLine line))

/-- The body of a declaration: its members, indented, with an empty line between any two. -/
def memberBlock (members : List String) : String :=
  "\n\n".intercalate (members.map indent)

end ApiProxy.Text
