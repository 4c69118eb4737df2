import ApiProxy.Json.Walk

/-!
# Shapes of documents

A codec says how the values of a type stand in a document: how one is read from an outline and
how it is written. Codecs of parts make codecs of wholes: lists, catalogs, optional values and
records. A record is given by its fields in the order in which they are written, each with
the way to get and to set it, so that reading and writing share one description.

A record may be read from an object, where unknown fields are skipped and absent ones keep
their default, or from an array of its fields in order, which may end early.
-/

namespace ApiProxy.Json

/-- How the values of a type stand in a document. -/
structure Codec (α : Type) where
  read : Nat → Outline → Except Fault α
  write : α → Json

/-- A field of a record: its name, how its values stand in a document, and how one is taken
from a record and put into it. -/
structure Field (σ : Type) where
  {α : Type}
  name : String
  codec : Codec α
  get : σ → α
  set : α → σ → σ

namespace Field

variable {σ : Type}

/-- How a field is set from a document. -/
def read (f : Field σ) (budget : Nat) (o : Outline) : Except Fault (σ → σ) :=
  (f.codec.read budget o).map f.set

/-- How a field of a record is written. -/
def write (f : Field σ) (x : σ) : Json := f.codec.write (f.get x)

end Field

namespace Codec

open Outline

variable {α σ : Type}

/-- A string. -/
def text : Codec String where
  read _ o :=
    match o with
    | .string s => s.kept
    | o => .error (o.mismatch "a string")
  write := Json.string

/-- A boolean. -/
def flag : Codec Bool where
  read _ o :=
    match o with
    | .bool b => .ok b
    | o => .error (o.mismatch "a boolean")
  write := Json.bool

/-- The integer of a number, if a signed word of 64 bits can hold it. -/
def wordOf (n : Number) : Except Fault Int64 :=
  match n with
  | .integer i =>
    if Int64.minValue.toInt ≤ i ∧ i ≤ Int64.maxValue.toInt then .ok (Int64.ofInt i)
    else .error (.invalidValue (.number n) "i64")
  | .double _ => .error (.invalidType (.number n) "i64")

/-- An integer of 64 bits. -/
def word : Codec Int64 where
  read _ o :=
    match o with
    | .number n => n.kept.bind wordOf
    | o => .error (o.mismatch "i64")
  write i := .ofInt i.toInt

/-- Any value. -/
def any : Codec Json where
  read := keep
  write v := v

/-- A value that may be absent: `null` stands for none. -/
def nullable (c : Codec α) : Codec (Option α) where
  read budget o :=
    match o with
    | .null => .ok none
    | o => (c.read budget o).map some
  write
    | none => .null
    | some v => c.write v

/-- The values of a list, read in order. -/
def readList (read : Outline → Except Fault α) : List Outline → Except Fault (List α)
  | [] => .ok []
  | o :: os => do
    let v ← read o
    let vs ← readList read os
    .ok (v :: vs)

/-- A list. -/
def list (c : Codec α) : Codec (List α) where
  read budget o :=
    match o with
    | .array items close => do
      let budget ← deeper budget
      let vs ← readList (c.read budget) items
      Close.keepList close
      .ok vs
    | o => .error (o.mismatch "a sequence")
  write vs := .array (vs.map c.write)

/-- Put the members of an object one after the other into a catalog. -/
def readEntries (read : Outline → Except Fault α) (acc : Catalog α) :
    List (Outline × Outline) → Except Fault (Catalog α)
  | [] => .ok acc
  | (name, o) :: ms => do
    let name ← name.keepName
    let v ← read o
    readEntries read (acc.put name v) ms

/-- Values by name; of two with one name the later stays. -/
def catalog (c : Codec α) : Codec (Catalog α) where
  read budget o :=
    match o with
    | .object members close => do
      let budget ← deeper budget
      let vs ← readEntries (c.read budget) .empty members
      Close.keepObject close
      .ok vs
    | o => .error (o.mismatch "a map")
  write vs := .object (vs.entries.map fun e => (e.1, c.write e.2))

/-- A field that holds a value of another codec. -/
def field (name : String) (c : Codec α) (get : σ → α) (set : α → σ → σ) : Field σ :=
  ⟨name, c, get, set⟩

/-- Set the fields that an object gives; a field may not be given twice. The names given
come with the result. -/
def readFields (fields : List (Field σ)) (budget : Nat) (given : List String) (x : σ) :
    List (Outline × Outline) → Except Fault (List String × σ)
  | [] => .ok (given, x)
  | (name, o) :: ms => do
    let name ← name.keepName
    match fields.find? (·.name == name) with
    | none => do
      o.skip
      readFields fields budget given x ms
    | some f =>
      if given.contains name then .error (.duplicateField name)
      else do
        let set ← f.read budget o
        readFields fields budget (name :: given) (set x) ms

/-- Set fields from the elements of an array, in order. The number of elements read, the
result and the elements left over are returned. -/
def readElements (budget : Nat) (count : Nat) (x : σ) :
    List (Field σ) → List Outline → Except Fault (Nat × σ × List Outline)
  | f :: fs, o :: os => do
    let set ← f.read budget o
    readElements budget (count + 1) (set x) fs os
  | _, os => .ok (count, x, os)

/-- The end of an array whose elements all had their field. -/
def endElements (left : List Outline) (close : Close) : Except Fault Unit :=
  if !left.isEmpty then .error .trailingCharacters
  else
    match close with
    | .closed => .ok ()
    | .unclosed => .error .endInList
    | .danglingComma => .error .trailingComma
    | .stray | .danglingEnd => .error .trailingCharacters

/-- The end of an array of fields: one that has all fields has to end there, one with fewer
is an array like any other. -/
def closeElements (fields count : Nat) (left : List Outline) (close : Close) :
    Except Fault Unit :=
  if count < fields then Close.keepList close else endElements left close

/-- A record whose fields all have a default, namely the one in `blank`. -/
def record (name : String) (blank : σ) (fields : List (Field σ)) : Codec σ where
  read budget o :=
    match o with
    | .object members close => do
      let budget ← deeper budget
      let (_, x) ← readFields fields budget [] blank members
      Close.keepObject close
      .ok x
    | .array items close => do
      let budget ← deeper budget
      let (count, x, left) ← readElements budget 0 blank fields items
      closeElements fields.length count left close
      .ok x
    | o => .error (o.mismatch ("struct " ++ name))
  write x := .object (fields.map fun f => (f.name, f.write x))

/-- How the length of a record written as an array is described. -/
def elementCount (name : String) (count : Nat) : String :=
  "struct " ++ name ++ " with " ++ Text.decimal count ++
    (if count = 1 then " element" else " elements")

/-- A record whose fields have to be given. -/
def strictRecord (name : String) (blank : σ) (fields : List (Field σ)) : Codec σ where
  read budget o :=
    match o with
    | .object members close => do
      let budget ← deeper budget
      let (given, x) ← readFields fields budget [] blank members
      Close.keepObject close
      match fields.find? fun f => !given.contains f.name with
      | some f => .error (.missingField f.name)
      | none => .ok x
    | .array items close => do
      let budget ← deeper budget
      let (count, x, left) ← readElements budget 0 blank fields items
      if count < fields.length then do
        Close.keepList close
        .error (.invalidLength count (elementCount name fields.length))
      else do
        endElements left close
        .ok x
    | o => .error (o.mismatch ("struct " ++ name))
  write x := .object (fields.map fun f => (f.name, f.write x))

/-- The value of a choice by its name. -/
def choose (options : List (String × α)) (name : String) : Except Fault α :=
  match options.find? (·.1 == name) with
  | some (_, v) => .ok v
  | none => .error (.unknownVariant name (options.map (·.1)))

/-- A choice between named values. It is a string, or an object that has the name for its
only member with the value `null`. -/
def choice [DecidableEq α] (options : List (String × α)) : Codec α where
  read budget o :=
    match o with
    | .string s => s.kept.bind (choose options)
    | .object members close => do
      let _ ← deeper budget
      match members with
      | [] => .error (if close = .unclosed then .endInObject else .expectedValue)
      | (name, o) :: others =>
        let name ← name.keepName
        let v ← choose options name
        match o with
          | .null => pure ()
          | o => .error (o.mismatch "unit")
        if !others.isEmpty then .error .expectedValue
        else
          match close with
          | .closed => .ok v
          | .unclosed => .error .endInObject
          | _ => .error .expectedValue
    | .broken f => .error f
    | _ => .error .expectedValue
  write v := .string (((options.find? (·.2 == v)).map (·.1)).getD "")

end Codec

/-- Read a whole text as a document. -/
def Codec.ofText {α : Type} (c : Codec α) (text : String) : Except Fault α :=
  let (outline, ends) := Outline.ofText text
  match c.read Outline.maxDepth outline with
  | .error f => .error f
  | .ok v => if ends then .ok v else .error .trailingCharacters

end ApiProxy.Json
