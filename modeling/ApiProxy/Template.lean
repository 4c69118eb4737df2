import ApiProxy.Json.Basic

/-!
# Templates

A template is fixed text with slots, which are filled from a context, and blocks, which
appear only if a value of the context counts as true. What fills a slot is written as it is:
nothing in it is escaped or looked at again.

A slot whose value the context does not have is an error at the place of the slot in the
template; only the first such slot that is reached is reported. A context that is an array has
no values with names at all. A block does not mind a value that is missing.
-/

namespace ApiProxy

/-- A place in the source of a template, counted from one. -/
structure Place where
  line : Nat
  column : Nat
deriving DecidableEq, Repr

/-- The beginning of a source. -/
def Place.start : Place := ⟨1, 1⟩

/-- The place behind the given characters. -/
def Place.after (p : Place) (cs : List Char) : Place :=
  cs.foldl (fun p c => if c = '\n' then ⟨p.line + 1, 1⟩ else ⟨p.line, p.column + 1⟩) p

/-- The place a number of characters further on the same line. -/
def Place.right (p : Place) (count : Nat) : Place := ⟨p.line, p.column + count⟩

namespace Template

/-- A part of a template. -/
inductive Piece where
  /-- Fixed text. -/
  | text (s : String)
  /-- A slot, in the source its name in double braces. -/
  | slot (name : String)
  /-- Pieces that appear if a value counts as true. In the source they stand between an
  opening tag with the name and a closing tag. -/
  | block (name : String) (body : List Piece)

/-- Why a context does not have a value. -/
inductive Lack where
  /-- It has none of that name. -/
  | missing
  /-- It is an array, and its values have no names. -/
  | nameless
deriving DecidableEq, Repr

/-- Why a context that does not have a value does not have it. -/
def Lack.ofContext : Json → Lack
  | .array _ => nameless
  | _ => missing

/-- A value that a template asked for and the context does not have. -/
structure Unbound where
  name : String
  place : Place
  lack : Lack
deriving DecidableEq, Repr

mutual

/-- The text that fills a slot. -/
def slotText : Json → String
  | .string s => s
  | .number n => String.ofList n.chars
  | .bool b => String.ofList (Json.boolChars b)
  | .null => ""
  | .object _ => "[object]"
  | .array items => "[" ++ ", ".intercalate (slotTexts items) ++ "]"

/-- The texts of the values of an array. -/
def slotTexts : List Json → List String
  | [] => []
  | v :: vs => slotText v :: slotTexts vs

end

/-- Whether a number counts as true: zero does not, nor does a double too small to have all
its digits. -/
def numberHolds : Json.Number → Bool
  | .integer n => n != 0
  | .double d => Nat.pow 2 52 ≤ d.mantissa

/-- Whether a value counts as true. -/
def holds : Option Json → Bool
  | none => false
  | some .null => false
  | some (.bool b) => b
  | some (.number n) => numberHolds n
  | some (.string s) => s != ""
  | some (.array items) => !items.isEmpty
  | some (.object members) => !members.isEmpty

/-- The width of a slot in the source. -/
def slotWidth (name : String) : Nat := name.toList.length + 4

/-- The width of the opening tag of a block in the source. -/
def openWidth (name : String) : Nat := name.toList.length + 8

/-- The width of the closing tag of a block in the source. -/
def closeWidth : Nat := 7

mutual

/-- The place behind a piece in the source. -/
def Piece.after (p : Place) : Piece → Place
  | .text s => p.after s.toList
  | .slot name => p.right (slotWidth name)
  | .block name body => (afterAll (p.right (openWidth name)) body).right closeWidth

/-- The place behind pieces in the source. -/
def afterAll (p : Place) : List Piece → Place
  | [] => p
  | q :: qs => afterAll (q.after p) qs

end

mutual

/-- Fill a piece that stands at the given place. -/
def Piece.fill (context : Json) (p : Place) : Piece → Except Unbound String
  | .text s => .ok s
  | .slot name =>
    match context.get? name with
    | some v => .ok (slotText v)
    | none => .error ⟨name, p, .ofContext context⟩
  | .block name body =>
    if holds (context.get? name) then fillAll context (p.right (openWidth name)) body
    else .ok ""

/-- Fill pieces from the given place on. -/
def fillAll (context : Json) (p : Place) : List Piece → Except Unbound String
  | [] => .ok ""
  | q :: qs => do
    let front ← q.fill context p
    let back ← fillAll context (q.after p) qs
    .ok (front ++ back)

end

end Template

/-- A named template. -/
structure Template where
  name : String
  pieces : List Template.Piece

/-- Fill a template from a context. -/
def Template.fill (t : Template) (context : Json) : Except Template.Unbound String :=
  fillAll context .start t.pieces

end ApiProxy
