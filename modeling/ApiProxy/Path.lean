/-!
# Paths

A path is a place to start from and parts behind it, as they are written between slashes.
Empty parts and `.` count for nothing, except that a path may start with `.`, and a part `..`
is kept. A path remembers how it was written: repeated slashes and a closing one come out
again when it is shown, and a path that ends in a slash does not name a file.

Joining something absolute replaces a path. Stripping a base compares what counts, not how
it is written.
-/

namespace ApiProxy

/-- The parts of a text between slashes; there is always one. -/
def splitSlash : List Char → List (List Char)
  | [] => [[]]
  | c :: cs =>
    if c = '/' then [] :: splitSlash cs
    else
      match splitSlash cs with
      | [] => [[c]]
      | part :: parts => (c :: part) :: parts

/-- The parts of a text between slashes. -/
def slashParts (text : String) : List String :=
  (splitSlash text.toList).map String.ofList

/-- Where a path starts. -/
inductive Anchor where
  /-- At the root: the path begins with a slash. -/
  | root
  /-- At the current directory, written as a leading `.`. -/
  | here
  /-- At the current directory, not written. -/
  | bare
deriving DecidableEq, Repr

/-- A path as it is written. -/
structure Path where
  anchor : Anchor
  parts : List String
deriving DecidableEq, Repr

namespace Path

/-- The path with nothing in it. -/
def empty : Path := ⟨.bare, []⟩

instance : Inhabited Path := ⟨empty⟩

/-- Read a path from its text. -/
def ofText (text : String) : Path :=
  match text.toList with
  | [] => empty
  | ['/'] => ⟨.root, []⟩
  | '/' :: cs => ⟨.root, (splitSlash cs).map String.ofList⟩
  | ['.'] => ⟨.here, []⟩
  | '.' :: '/' :: cs => ⟨.here, (splitSlash cs).map String.ofList⟩
  | cs => ⟨.bare, (splitSlash cs).map String.ofList⟩

/-- The text of a path. -/
def text (p : Path) : String :=
  match p.anchor, p.parts with
  | .root, parts => "/" ++ "/".intercalate parts
  | .here, [] => "."
  | .here, parts => "./" ++ "/".intercalate parts
  | .bare, parts => "/".intercalate parts

/-- Whether a path starts at the root. -/
def isAbsolute (p : Path) : Bool := p.anchor == .root

/-- Whether a part counts for nothing. -/
def isIdle (part : String) : Bool := part == "" || part == "."

/-- The parts that count. -/
def names (p : Path) : List String := p.parts.filter fun part => !isIdle part

/-- What a path is made up of. -/
inductive Component where
  /-- The slash that a path begins with. -/
  | root
  /-- The dot that a path begins with. -/
  | here
  /-- A part `..`. -/
  | back
  /-- Any other part that counts. -/
  | name (text : String)
deriving DecidableEq, Repr

/-- What a path begins with, if this is written. -/
def Component.ofAnchor : Anchor → List Component
  | .root => [root]
  | .here => [here]
  | .bare => []

/-- A part that counts, as a component. -/
def Component.ofPart (part : String) : Component := if part = ".." then back else name part

/-- What a path is made up of, in order. Paths with the same components are the same path,
written in different ways. -/
def components (p : Path) : List Component :=
  Component.ofAnchor p.anchor ++ p.names.map Component.ofPart

/-- Drop the parts that count for nothing from the end. -/
def trimEnd (parts : List String) : List String :=
  (parts.reverse.dropWhile isIdle).reverse

/-- Put a text behind a path, with one slash between them. An absolute text takes the place
of the path. -/
def join (p : Path) (text : String) : Path :=
  if text.toList.head? = some '/' || p == empty then ofText text
  else
    let front := if p.parts.getLast? = some "" then p.parts.dropLast else p.parts
    ⟨p.anchor, front ++ slashParts text⟩

/-- The path without its last part that counts. The root and the empty path have none. -/
def parent? (p : Path) : Option Path :=
  match trimEnd p.parts, p.anchor with
  | [], .root => none
  | [], .here => some empty
  | [], .bare => none
  | parts, anchor => some ⟨anchor, trimEnd parts.dropLast⟩

/-- The last part that counts, unless it is `..`. -/
def fileName? (p : Path) : Option String :=
  p.names.getLast?.filter (· != "..")

/-- The extension of a file name: what follows its last dot, unless that dot leads the
name. -/
def extensionOf? (name : String) : Option String :=
  if name = ".." then none
  else
    let tail := name.toList.reverse.takeWhile (· != '.')
    let front := (name.toList.reverse.dropWhile (· != '.')).drop 1
    if front.isEmpty then none else some (String.ofList tail.reverse)

/-- The extension of the last part of a path. -/
def extension? (p : Path) : Option String := p.fileName?.bind extensionOf?

/-- The path with another last part. -/
def withFileName (p : Path) (name : String) : Path :=
  if p.fileName?.isSome then (p.parent?.getD p).join name else p.join name

/-- What follows the given names in parts, if the parts that count begin with them. -/
def afterNames? : List String → List String → Option (List String)
  | parts, [] => some parts
  | [], _ :: _ => none
  | part :: parts, name :: names =>
    if isIdle part then afterNames? parts (name :: names)
    else if part = name then afterNames? parts names
    else none

/-- The path below a base that leads to the same place, if the base is a beginning of the
path. -/
def relativeTo? (p base : Path) : Option Path :=
  if base.anchor = .bare ∧ base.names = [] then some ⟨p.anchor, trimEnd p.parts⟩
  else if p.anchor = base.anchor then
    (afterNames? p.parts base.names).map fun parts =>
      ⟨.bare, trimEnd (parts.dropWhile isIdle)⟩
  else none

end Path

end ApiProxy
