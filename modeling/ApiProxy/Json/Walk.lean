import ApiProxy.Json.Outline

/-!
# Walking an outline

The two plain ways through an outline: keeping it as a value and skipping it. A value that is
kept may nest arrays and objects only to a limited depth, needs numbers in range and its
surrogates in pairs, and takes the last of two members with one name. None of this matters
where a value is skipped. A dangling comma is reported in different words by the two.
-/

namespace ApiProxy.Json

namespace Outline

/-- How deep arrays and objects may nest in a document. -/
def maxDepth : Nat := 127

/-- One level less of nesting, if there is one left. -/
def deeper (budget : Nat) : Except Fault Nat :=
  match budget with
  | 0 => .error .tooDeep
  | n + 1 => .ok n

/-- The end of an array that is kept. -/
def Close.keepList : Close → Except Fault Unit
  | .closed => .ok ()
  | .unclosed => .error .endInList
  | .stray => .error .expectedListEnd
  | .danglingComma => .error .trailingComma
  | .danglingEnd => .error .endInValue

/-- The end of an object that is kept. -/
def Close.keepObject : Close → Except Fault Unit
  | .closed => .ok ()
  | .unclosed => .error .endInObject
  | .stray => .error .expectedObjectEnd
  | .danglingComma => .error .trailingComma
  | .danglingEnd => .error .endInValue

/-- The end of an array that is skipped. -/
def Close.skipList : Close → Except Fault Unit
  | .closed => .ok ()
  | .unclosed => .error .endInList
  | .stray => .error .expectedListEnd
  | .danglingComma => .error .expectedValue
  | .danglingEnd => .error .endInValue

/-- The end of an object that is skipped. -/
def Close.skipObject : Close → Except Fault Unit
  | .closed => .ok ()
  | .unclosed => .error .endInObject
  | .stray => .error .expectedObjectEnd
  | .danglingComma => .error .nameNotString
  | .danglingEnd => .error .endInObject

/-- The name of a member that is kept. -/
def keepName : Outline → Except Fault String
  | string s => s.kept
  | _ => .error .nameNotString

/-- The name of a member that is skipped. -/
def skipName : Outline → Except Fault Unit
  | string s => s.skipped
  | _ => .error .nameNotString

mutual

/-- The value of an outline. -/
def keep (budget : Nat) : Outline → Except Fault Json
  | null => .ok .null
  | bool b => .ok (.bool b)
  | number n => n.kept.map .number
  | string s => s.kept.map .string
  | array items close => do
    let budget ← deeper budget
    let vs ← keepItems budget items
    Close.keepList close
    .ok (.array vs)
  | object members close => do
    let budget ← deeper budget
    let ms ← keepMembers budget [] members
    Close.keepObject close
    .ok (.object ms)
  | misspelt f => .error f
  | broken f => .error f

/-- The values of an array. -/
def keepItems (budget : Nat) : List Outline → Except Fault (List Json)
  | [] => .ok []
  | o :: os => do
    let v ← o.keep budget
    let vs ← keepItems budget os
    .ok (v :: vs)

/-- Put the members of an object one after the other into members that ascend. -/
def keepMembers (budget : Nat) (acc : List (String × Json)) :
    List (Outline × Outline) → Except Fault (List (String × Json))
  | [] => .ok acc
  | (name, o) :: ms => do
    let name ← name.keepName
    let v ← o.keep budget
    keepMembers budget (putAscending name v acc) ms

end

mutual

/-- Pass over an outline. -/
def skip : Outline → Except Fault Unit
  | null => .ok ()
  | bool _ => .ok ()
  | number n => n.skipped
  | string s => s.skipped
  | array items close => do
    skipItems items
    Close.skipList close
  | object members close => do
    skipMembers members
    Close.skipObject close
  | misspelt f => .error f
  | broken f => .error f

/-- Pass over the values of an array. -/
def skipItems : List Outline → Except Fault Unit
  | [] => .ok ()
  | o :: os => do
    o.skip
    skipItems os

/-- Pass over the members of an object. -/
def skipMembers : List (Outline × Outline) → Except Fault Unit
  | [] => .ok ()
  | (name, o) :: ms => do
    name.skipName
    o.skip
    skipMembers ms

end

/-- The fault of an outline where another kind of value is expected. What would be found
first has to be readable itself; a container is not looked into. -/
def mismatch (expected : String) : Outline → Fault
  | null => .invalidType .null expected
  | bool b => .invalidType (.bool b) expected
  | number n =>
    match n.kept with
    | .ok v => .invalidType (.number v) expected
    | .error f => f
  | string s =>
    match s.kept with
    | .ok v => .invalidType (.string v) expected
    | .error f => f
  | array .. => .invalidType .sequence expected
  | object .. => .invalidType .map expected
  | misspelt f => f
  | broken f => f

end Outline

end ApiProxy.Json
