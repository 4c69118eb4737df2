/-!
# Blank characters

The characters that count as white space in type descriptors, namespaces and folder names:
those with the Unicode property `White_Space`. The zero-width space U+200B and the
byte-order mark U+FEFF do not have it.
-/

namespace ApiProxy.Text

/-- The characters with the Unicode property `White_Space`. -/
def isBlank (c : Char) : Bool :=
  let n := c.toNat
  (0x09 ≤ n && n ≤ 0x0D) || n == 0x20 || n == 0x85 || n == 0xA0 || n == 0x1680 ||
    (0x2000 ≤ n && n ≤ 0x200A) || n == 0x2028 || n == 0x2029 || n == 0x202F || n == 0x205F ||
    n == 0x3000

/-- Drop the blank characters in front. -/
def skipBlank (cs : List Char) : List Char :=
  cs.dropWhile isBlank

/-- Drop the blank characters at the end. -/
def dropTrailingBlank (cs : List Char) : List Char :=
  (cs.reverse.dropWhile isBlank).reverse

/-- Drop the blank characters at both ends. -/
def trimBlank (cs : List Char) : List Char :=
  dropTrailingBlank (skipBlank cs)

/-- Drop the blank characters at both ends of a string. -/
def trim (s : String) : String :=
  String.ofList (trimBlank s.toList)

/-- A string with nothing but blank characters in it. -/
def allBlank (s : String) : Bool :=
  s.toList.all isBlank

theorem length_skipBlank_le (cs : List Char) : (skipBlank cs).length ≤ cs.length :=
  (List.dropWhile_suffix isBlank).length_le

theorem skipBlank_suffix (cs : List Char) : skipBlank cs <:+ cs :=
  List.dropWhile_suffix isBlank

end ApiProxy.Text
