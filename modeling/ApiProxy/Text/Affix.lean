/-!
# Starts, ends and parts of texts

Tests on the characters of two texts: whether one begins, ends or contains the other, and
what follows a given start.
-/

namespace ApiProxy.Text

/-- Whether a list of characters contains another one as a run. -/
def hasInfix (part : List Char) : List Char → Bool
  | [] => part.isEmpty
  | c :: cs => part.isPrefixOf (c :: cs) || hasInfix part cs

/-- Whether a text begins with `start`. -/
def startsWith (start text : String) : Bool :=
  start.toList.isPrefixOf text.toList

/-- Whether a text ends with `tail`. -/
def endsWith (tail text : String) : Bool :=
  tail.toList.isSuffixOf text.toList

/-- Whether a text contains `part`. -/
def contains (part text : String) : Bool :=
  hasInfix part.toList text.toList

/-- What follows `start` in a text that begins with it. -/
def afterStart? (start text : String) : Option String :=
  if startsWith start text then some (String.ofList (text.toList.drop start.toList.length))
  else none

theorem append_of_afterStart?_eq_some {start text rest : String}
    (h : afterStart? start text = some rest) : start ++ rest = text := by
  unfold afterStart? startsWith at h
  split at h
  · next hp =>
    obtain rfl := Option.some.inj h
    obtain ⟨tail, ht⟩ := List.isPrefixOf_iff_prefix.1 hp
    apply String.toList_inj.1
    rw [String.toList_append, String.toList_ofList, ← ht, List.drop_left]
  · simp at h

end ApiProxy.Text
