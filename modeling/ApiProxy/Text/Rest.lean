/-!
# What is left of a text

A reader takes something from the front of a text and returns what is left. That the rest is
shorter, or at least not longer, is part of its type, and is why readers that call each other
come to an end.
-/

namespace ApiProxy.Text

/-- What is left of a text after something was read from it. -/
abbrev Rest (cs : List Char) := { r : List Char // r.length < cs.length }

/-- What is left of a text after something may have been read from it. -/
abbrev Tail (cs : List Char) := { r : List Char // r.length ≤ cs.length }

/-- All of a text is left if nothing was read. -/
def Tail.all (cs : List Char) : Tail cs := ⟨cs, Nat.le_refl cs.length⟩

/-- What is left after something was read is left after something may have been read. -/
def Rest.toTail {cs : List Char} (r : Rest cs) : Tail cs := ⟨r.1, Nat.le_of_lt r.2⟩

/-- What is left of a text is shorter than any text that is not shorter than that one. -/
def Rest.within {cs ds : List Char} (h : cs.length ≤ ds.length) (r : Rest cs) : Rest ds :=
  ⟨r.1, Nat.lt_of_lt_of_le r.2 h⟩

/-- What may be all of a text is shorter than any longer text. -/
def Tail.within {cs ds : List Char} (h : cs.length < ds.length) (r : Tail cs) : Rest ds :=
  ⟨r.1, Nat.lt_of_le_of_lt r.2 h⟩

end ApiProxy.Text
