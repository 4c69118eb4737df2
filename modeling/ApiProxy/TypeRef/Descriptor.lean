import ApiProxy.Text.Blank
import ApiProxy.Text.Rest
import ApiProxy.TypeRef.Basic

/-!
# Reading type descriptors

A descriptor is read from the left with at most one character of look-ahead:

* `[T]` is an array and `{K:V}` a dictionary;
* a name is a run of characters other than the eight delimiters, trimmed, and may not be
  blank; followed by `<A,B>` it is a generic instantiation, otherwise a plain name whose
  last `?` is the nullable mark;
* a `?` behind a closing bracket marks the whole type as nullable.

Blanks may stand before every token. Text that is not a descriptor as a whole is taken as one
plain name. Each reader returns what is left of the text with the proof that this is shorter,
which is why reading ends.
-/

namespace ApiProxy

open Text

namespace TypeRef

/-- The characters that end a name. -/
def isDelimiter (c : Char) : Bool :=
  c == '<' || c == '>' || c == ',' || c == '[' || c == ']' || c == '\x7b' || c == '\x7d' || c == ':'

theorem length_lt_of_skipBlank_eq_cons {cs r : List Char} {c : Char}
    (h : skipBlank cs = c :: r) : r.length < cs.length := by
  have := length_skipBlank_le cs
  rw [h, List.length_cons] at this
  omega

/-- Skip blanks and take the given character. -/
def eat? (expected : Char) (cs : List Char) : Option (Rest cs) :=
  match h : skipBlank cs with
  | [] => none
  | c :: r =>
    if c = expected then some ⟨r, length_lt_of_skipBlank_eq_cons h⟩ else none

/-- Take the nullable mark, if it comes next. -/
def eatMark (cs : List Char) : Bool × Tail cs :=
  match eat? '?' cs with
  | some r => (true, r.toTail)
  | none => (false, .all cs)

/-- The plain name that a trimmed text stands for: its last question mark is the nullable
mark. -/
def ofPlain (cs : List Char) : TypeRef :=
  if cs.getLast? = some '?' then simple (String.ofList cs.dropLast) true
  else simple (String.ofList cs) false

/-- The run of characters in front that belong to a name. -/
def nameRun (cs : List Char) : List Char :=
  cs.takeWhile (!isDelimiter ·)

/-- What follows the run of a name. -/
def afterName (cs : List Char) : List Char :=
  cs.dropWhile (!isDelimiter ·)

theorem length_afterName_lt {cs : List Char} (h : trimBlank (nameRun cs) ≠ []) :
    (afterName cs).length < cs.length := by
  have hrun : nameRun cs ≠ [] := fun h' => h (by rw [h']; rfl)
  have hsplit := congrArg List.length
    (List.takeWhile_append_dropWhile (p := (!isDelimiter ·)) (l := cs))
  have : 0 < (nameRun cs).length := List.length_pos_iff.2 hrun
  simp only [List.length_append] at hsplit
  unfold afterName nameRun at *
  omega

mutual

/-- Read one type from the front of a text. -/
def read? (cs : List Char) : Option (TypeRef × Rest cs) :=
  match h : skipBlank cs with
  | [] => none
  | c :: r =>
    have hr : r.length < cs.length := by
      have := length_skipBlank_le cs
      simp only [h, List.length_cons] at this
      omega
    if c = '[' then do
      let (element, r₁) ← read? r
      let r₂ ← eat? ']' r₁.1
      let (nullable, r₃) := eatMark r₂.1
      some (array element nullable, ⟨r₃.1, by omega⟩)
    else if c = '\x7b' then do
      let (key, r₁) ← read? r
      let r₂ ← eat? ':' r₁.1
      let (value, r₃) ← read? r₂.1
      let r₄ ← eat? '\x7d' r₃.1
      let (nullable, r₅) := eatMark r₄.1
      some (dictionary key value nullable, ⟨r₅.1, by omega⟩)
    else if hname : trimBlank (nameRun (c :: r)) = [] then none
    else
      have hafter : (afterName (c :: r)).length < cs.length := by
        have := length_afterName_lt hname
        simp only [List.length_cons] at this
        omega
      match eat? '<' (afterName (c :: r)) with
      | none => some (ofPlain (trimBlank (nameRun (c :: r))), ⟨afterName (c :: r), hafter⟩)
      | some r₁ => do
        let (first, r₂) ← read? r₁.1
        let (others, r₃) ← readArgs? r₂.1
        let (nullable, r₄) := eatMark r₃.1
        some (generic (String.ofList (trimBlank (nameRun (c :: r)))) (first :: others) nullable,
          ⟨r₄.1, by omega⟩)
termination_by cs.length

/-- Read the arguments that follow the first one, up to the closing bracket. -/
def readArgs? (cs : List Char) : Option (List TypeRef × Rest cs) :=
  match eat? ',' cs with
  | some r => do
    let (arg, r₁) ← read? r.1
    let (others, r₂) ← readArgs? r₁.1
    some (arg :: others, ⟨r₂.1, by omega⟩)
  | none => do
    let r ← eat? '>' cs
    some ([], r)
termination_by cs.length

end

/-- Read a whole text as one type; blanks may follow it. -/
def ofDescriptor? (cs : List Char) : Option TypeRef := do
  let (type, r) ← read? cs
  if skipBlank r.1 = [] then some type else none

/-- The type that a descriptor stands for. Text that is no descriptor is a plain name. -/
def ofDescriptor (descriptor : String) : TypeRef :=
  (ofDescriptor? descriptor.toList).getD (ofPlain (trimBlank descriptor.toList))

end TypeRef

/-- The namespace of the outermost name in a descriptor. -/
def namespaceOf? (descriptor : String) : Option String :=
  (TypeRef.ofDescriptor descriptor).namespace?

end ApiProxy
