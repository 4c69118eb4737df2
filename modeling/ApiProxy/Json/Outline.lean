import ApiProxy.Json.Numeral
import ApiProxy.Json.Quoted

/-!
# The outline of a JSON text

An outline is what a text says as JSON, read once from the left, with every fault left at the
place where it stands. Which fault is reported is decided afterwards by whoever walks the
outline: a reader that keeps a value reports other faults than one that skips it, and a
reader that gives up early never comes to the later ones.

A string and a number keep both what they stand for and what a reader that skips them sees. A
container lists what stands in it and says how it closes. When a part cannot be read to its
end nothing behind it is read; the containers around it then end with that part.
-/

namespace ApiProxy.Json

/-- What a value stands for when it is kept, and the fault that skipping it meets. -/
structure Scan (α : Type) where
  kept : Except Fault α
  skipped : Except Fault Unit

/-- How an array or an object closes behind its last part. -/
inductive Close where
  /-- With its bracket. -/
  | closed
  /-- The text ends. -/
  | unclosed
  /-- Another character stands where a comma or the bracket should. -/
  | stray
  /-- A comma, then the bracket. -/
  | danglingComma
  /-- A comma, then the text ends. -/
  | danglingEnd
deriving DecidableEq, Repr

/-- What a text says as JSON, with its faults in place. -/
inductive Outline where
  | null
  | bool (b : Bool)
  | number (n : Scan Number)
  | string (s : Scan String)
  | array (items : List Outline) (close : Close)
  /-- A name that is no string is the outline of what stands in its place. -/
  | object (members : List (Outline × Outline)) (close : Close)
  /-- A word that begins like `null`, `true` or `false` and is none of them. -/
  | misspelt (fault : Fault)
  /-- No value can be read here. -/
  | broken (fault : Fault)

namespace Outline

open Text (Rest Tail)

instance : Inhabited Outline := ⟨null⟩

/-- The blanks between the tokens of a JSON text. -/
def isSpace (c : Char) : Bool :=
  c == ' ' || c == '\t' || c == '\n' || c == '\r'

/-- Drop the blanks in front. -/
def skipSpace (cs : List Char) : List Char := cs.dropWhile isSpace

theorem length_skipSpace_le (cs : List Char) : (skipSpace cs).length ≤ cs.length :=
  (List.dropWhile_suffix isSpace).length_le

/-- Take the letters of a word whose first letter has been taken. -/
def word (letters cs : List Char) : Except Fault (Tail cs) :=
  match letters, cs with
  | [], cs => .ok (.all cs)
  | _ :: _, [] => .error .endInValue
  | l :: ls, c :: r =>
    if c = l then (word ls r).map fun r' => ⟨r'.1, Nat.le_succ_of_le r'.2⟩
    else .error .expectedIdent

/-- The outline of `null`, `true` or `false` behind its first letter. -/
def ofWord (value : Outline) (letters : List Char) (cs : List Char) :
    Outline × Option (Tail cs) :=
  match word letters cs with
  | .ok r => (value, some r)
  | .error f => (misspelt f, none)

/-- The fault of a misspelt numeral for a reader that keeps it. -/
def keptFlaw : Numeral.Flaw → Fault
  | .truncated => .endInValue
  | .malformed => .invalidNumber

/-- The outline of a numeral behind its optional minus sign. -/
def ofNumeral (negative : Bool) (cs : List Char) : Outline × Option (Rest cs) :=
  match Numeral.ofChars negative cs with
  | .ok (n, r) => (number ⟨n.number, .ok ()⟩, some r)
  | .error flaw => (number ⟨.error (keptFlaw flaw), .error .invalidNumber⟩, none)

/-- The outline of a string behind its opening quote. -/
def ofQuoted (cs : List Char) : Outline × Option (Rest cs) :=
  let kept := (Quoted.decode cs).map String.ofList
  match Quoted.skim cs with
  | .ok r => (string ⟨kept, .ok ()⟩, some r)
  | .error f => (string ⟨kept, .error f⟩, none)

theorem length_cons_le_of_skipSpace_eq {cs r : List Char} {c : Char}
    (h : skipSpace cs = c :: r) : (c :: r).length ≤ cs.length :=
  h ▸ length_skipSpace_le cs

theorem length_lt_of_skipSpace_eq {cs r : List Char} {c : Char} (h : skipSpace cs = c :: r) :
    r.length < cs.length :=
  Nat.lt_of_succ_le (length_cons_le_of_skipSpace_eq h)

mutual

/-- The outline of the value in front of a text, and the text behind it if the value can be
read to its end. -/
def read (cs : List Char) : Outline × Option (Rest cs) :=
  match h : skipSpace cs with
  | [] => (broken .endInValue, none)
  | c :: r =>
    have hr : r.length < cs.length := length_lt_of_skipSpace_eq h
    if c = '"' then
      let (o, r') := ofQuoted r
      (o, r'.map (·.within (Nat.le_of_lt hr)))
    else if c = '[' then
      let (items, close, r') := readItems true r
      (array items close, r'.map (·.within (Nat.le_of_lt hr)))
    else if c = '\x7b' then
      let (members, close, r') := readMembers true r
      (object members close, r'.map (·.within (Nat.le_of_lt hr)))
    else if c = 'n' then
      let (o, r') := ofWord null ['u', 'l', 'l'] r
      (o, r'.map (·.within hr))
    else if c = 't' then
      let (o, r') := ofWord (bool true) ['r', 'u', 'e'] r
      (o, r'.map (·.within hr))
    else if c = 'f' then
      let (o, r') := ofWord (bool false) ['a', 'l', 's', 'e'] r
      (o, r'.map (·.within hr))
    else if c = '-' then
      let (o, r') := ofNumeral true r
      (o, r'.map (·.within (Nat.le_of_lt hr)))
    else if c.isDigit then
      let (o, r') := ofNumeral false (c :: r)
      (o, r'.map (·.within (length_cons_le_of_skipSpace_eq h)))
    else (broken .expectedValue, none)
termination_by (cs.length, 0)

/-- The elements of an array, how it closes, and the text behind it. -/
def readItems (first : Bool) (cs : List Char) : List Outline × Close × Option (Rest cs) :=
  match h : skipSpace cs with
  | [] => ([], .unclosed, none)
  | c :: r =>
    have hr : r.length < cs.length := length_lt_of_skipSpace_eq h
    if c = ']' then ([], .closed, some ⟨r, hr⟩)
    else if first then
      match read cs with
      | (o, none) => ([o], .unclosed, none)
      | (o, some r₁) =>
        let (os, close, r') := readItems false r₁.1
        (o :: os, close, r'.map (·.within (Nat.le_of_lt r₁.2)))
    else if c = ',' then
      match skipSpace r with
      | [] => ([], .danglingEnd, none)
      | d :: _ =>
        if d = ']' then ([], .danglingComma, none)
        else
          match read r with
          | (o, none) => ([o], .unclosed, none)
          | (o, some r₁) =>
            let (os, close, r') := readItems false r₁.1
            (o :: os, close, r'.map (·.within (Nat.le_of_lt (Nat.lt_trans r₁.2 hr))))
    else ([], .stray, none)
termination_by (cs.length, 1)

/-- The members of an object, how it closes, and the text behind it. -/
def readMembers (first : Bool) (cs : List Char) :
    List (Outline × Outline) × Close × Option (Rest cs) :=
  match h : skipSpace cs with
  | [] => ([], .unclosed, none)
  | c :: r =>
    have hr : r.length < cs.length := length_lt_of_skipSpace_eq h
    if c = '\x7d' then ([], .closed, some ⟨r, hr⟩)
    else if first then
      match readMember cs with
      | (m, none) => ([m], .unclosed, none)
      | (m, some r₁) =>
        let (ms, close, r') := readMembers false r₁.1
        (m :: ms, close, r'.map (·.within (Nat.le_of_lt r₁.2)))
    else if c = ',' then
      match skipSpace r with
      | [] => ([], .danglingEnd, none)
      | d :: _ =>
        if d = '\x7d' then ([], .danglingComma, none)
        else
          match readMember r with
          | (m, none) => ([m], .unclosed, none)
          | (m, some r₁) =>
            let (ms, close, r') := readMembers false r₁.1
            (m :: ms, close, r'.map (·.within (Nat.le_of_lt (Nat.lt_trans r₁.2 hr))))
    else ([], .stray, none)
termination_by (cs.length, 2)

/-- The name and the value of a member, and the text behind it. -/
def readMember (cs : List Char) : (Outline × Outline) × Option (Rest cs) :=
  match read cs with
  | (string name, some r) =>
    match h : skipSpace r.1 with
    | [] => ((string name, broken .endInObject), none)
    | c :: r₁ =>
      if c = ':' then
        have hr : r₁.length < cs.length := Nat.lt_trans (length_lt_of_skipSpace_eq h) r.2
        let (value, r') := read r₁
        ((string name, value), r'.map (·.within (Nat.le_of_lt hr)))
      else ((string name, broken .expectedColon), none)
  | (name, _) => ((name, broken .nameNotString), none)
termination_by (cs.length, 1)

end

/-- The outline of a whole text, and whether nothing but blanks follows the value. -/
def ofText (text : String) : Outline × Bool :=
  match read text.toList with
  | (o, none) => (o, false)
  | (o, some r) => (o, (skipSpace r.1).isEmpty)

end Outline

end ApiProxy.Json
