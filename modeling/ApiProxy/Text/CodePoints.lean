import ApiProxy.Text.Hexadecimal

/-!
# Sets of code points

Sets of characters as standards list them: ranges of code points in hexadecimal digits, such as
`41-5A 5F`, with spaces and line ends between them.
-/

namespace ApiProxy.Text

/-- The words of a text between spaces and line ends. -/
def tableWords (text : String) : List (List Char) :=
  (text.toList.splitOnP fun c => c == ' ' || c == '\n').filter (!·.isEmpty)

/-- The code point that a word of a table gives. -/
def tableNumber (word : List Char) : Nat := (hexNumber? word).getD 0

/-- The character that a word of a table gives. -/
def tableChar (word : List Char) : Char := Char.ofNat (tableNumber word)

/-- A set of code points, as ranges with both ends. -/
structure CodePoints where
  ranges : List (Nat × Nat)
deriving Repr

namespace CodePoints

/-- The range that a word gives. A single code point is a range too. -/
def range (word : List Char) : Nat × Nat :=
  let last := (word.dropWhile (· != '-')).drop 1
  let first := word.takeWhile (· != '-')
  (tableNumber first, tableNumber (if last.isEmpty then first else last))

/-- Read a set from its listing. -/
def ofText (text : String) : CodePoints := ⟨(tableWords text).map range⟩

/-- Whether a character is in a set. -/
def contains (s : CodePoints) (c : Char) : Bool :=
  s.ranges.any fun r => r.1 ≤ c.toNat && c.toNat ≤ r.2

end CodePoints

end ApiProxy.Text
