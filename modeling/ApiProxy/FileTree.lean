import ApiProxy.Catalog
import ApiProxy.Failure
import ApiProxy.Path

/-!
# File trees

A file system without links: directories that hold files and directories by name, and a
current directory. A location is the list of names that lead from the root to an entry. A
path is resolved part by part: every part but the last has to be a directory, `..` goes back
to the directory above, and a closing slash or `.` asks for a directory.

The current directory can be taken away. For whoever stands in it, it is still there and empty, and
so are the directories above it that were taken away, but nothing can be put into them.

A tree says what can be done as far as files and directories go. It holds no rights and has room
for everything, so nothing here is refused for want of them and a file is written as a whole; what
a disk refuses, and where it breaks off, comes on top.
-/

namespace ApiProxy

/-- A file or a directory. -/
inductive Node where
  | file (content : String)
  /-- A directory and its entries by name. Of two entries with one name only the first counts. -/
  | directory (entries : List (String × Node))
deriving Repr, Inhabited

/-- The names that lead from the root to an entry. -/
abbrev Location := List String

namespace Node

/-- The directory with nothing in it. -/
def emptyDirectory : Node := directory []

/-- Whether an entry is a directory. -/
def isDirectory : Node → Bool
  | file _ => false
  | directory _ => true

/-- What stands under a name in a directory. -/
def child? (n : Node) (name : String) : Option Node :=
  match n with
  | file _ => none
  | directory entries => (entries.find? (·.1 == name)).map (·.2)

/-- What stands at a location. -/
def get? (n : Node) : Location → Option Node
  | [] => some n
  | name :: rest => (n.child? name).bind (·.get? rest)

/-- Put an entry at a location whose directory exists. -/
def put (n : Node) (loc : Location) (value : Node) : Node :=
  match loc, n with
  | [], _ => value
  | _ :: _, file content => file content
  | [name], directory entries => directory (putAscending name value entries)
  | name :: rest, directory entries =>
    match (directory entries).child? name with
    | none => directory entries
    | some c => directory (putAscending name (c.put rest value) entries)

/-- Take the entry at a location away. -/
def erase (n : Node) (loc : Location) : Node :=
  match loc, n with
  | [], n => n
  | _ :: _, file content => file content
  | [name], directory entries => directory (entries.filter (·.1 != name))
  | name :: rest, directory entries =>
    match (directory entries).child? name with
    | none => directory entries
    | some c => directory (putAscending name (c.erase rest) entries)

theorem child?_directory_putAscending (name : String) (value : Node)
    (entries : List (String × Node)) (m : String) :
    (directory (putAscending name value entries)).child? m =
      if name = m then some value else (directory entries).child? m := by
  simp only [child?, find?_putAscending]
  split <;> rfl

theorem child?_directory_filter (name : String) (entries : List (String × Node)) (m : String) :
    (directory (entries.filter (·.1 != name))).child? m =
      if name = m then none else (directory entries).child? m := by
  simp only [child?, List.find?_filter]
  by_cases h : name = m
  · subst h
    simp
  · rw [if_neg h]
    congr 2
    funext e
    by_cases he : e.1 = m
    · simp [he, Ne.symm h]
    · simp [he]

/-- An entry that was put below an existing directory stands at its location. -/
theorem get?_put_self {n : Node} {loc : Location} (value : Node)
    (h : ∀ d, n.get? loc.dropLast = some d → d.isDirectory = true)
    (hex : (n.get? loc.dropLast).isSome) : (n.put loc value).get? loc = some value := by
  induction loc generalizing n with
  | nil => rfl
  | cons name rest ih =>
    match n, rest with
    | file _, [] => simp [get?, isDirectory] at h
    | file _, _ :: _ => simp [get?, child?] at hex
    | directory entries, [] => simp [put, get?, child?_directory_putAscending]
    | directory entries, next :: rest =>
      simp only [List.dropLast_cons_cons, get?] at h hex
      cases hc : (directory entries).child? name with
      | none => simp [hc] at hex
      | some c =>
        simp only [hc, Option.bind_some] at h hex
        simp only [put, hc, get?, child?_directory_putAscending, if_true, Option.bind_some]
        simpa only [get?] using ih h hex

theorem get?_erase_self (n : Node) {loc : Location} (h : loc ≠ []) :
    (n.erase loc).get? loc = none := by
  induction loc generalizing n with
  | nil => exact absurd rfl h
  | cons name rest ih =>
    match n, rest with
    | file _, [] | file _, _ :: _ => rfl
    | directory entries, [] => simp [erase, get?, child?_directory_filter]
    | directory entries, next :: rest =>
      cases hc : (directory entries).child? name with
      | none => simp [erase, hc, get?]
      | some c =>
        simp only [erase, hc, get?, child?_directory_putAscending, if_true, Option.bind_some]
        simpa only [get?] using ih c (List.cons_ne_nil _ _)

section

-- why the entry at a location may not be taken away
variable (refuses : Location → Option Refusal)

mutual

/-- What stays when an entry is removed with everything in it, and what keeps it. -/
def remove (loc : Location) : Node → Option (Node × Refusal)
  | file content => (refuses loc).map (file content, ·)
  | directory entries =>
    match removeEntries loc entries with
    | (kept, some r) => some (directory kept, r)
    | (kept, none) => (refuses loc).map (directory kept, ·)

/-- What stays when the given entries of a directory are removed one after the other, and what
keeps the first that stays. -/
def removeEntries (loc : Location) : List (String × Node) → List (String × Node) × Option Refusal
  | [] => ([], none)
  | (name, n) :: entries =>
    match n.remove (loc ++ [name]) with
    | some (kept, r) => ((name, kept) :: entries, some r)
    | none => removeEntries loc entries

end

end

mutual

/-- All entries below a node in ascending order, with their locations; a directory comes
without content. -/
def listing (loc : Location) : Node → List (Location × Option String)
  | file content => [(loc, some content)]
  | directory entries => (loc, none) :: listingOf loc entries

/-- All entries below the given entries of a directory. -/
def listingOf (loc : Location) : List (String × Node) → List (Location × Option String)
  | [] => []
  | (name, n) :: entries => n.listing (loc ++ [name]) ++ listingOf loc entries

end

end Node

/-- A file system: its root directory and the location of the current directory. -/
structure FileTree where
  root : Node
  current : Location
deriving Repr, Inhabited

namespace FileTree

/-- The most bytes that a name may have. -/
def maxName : Nat := 255

/-- The most bytes that a path may have. -/
def maxPath : Nat := 4095

/-- What stands at a location. -/
def get? (t : FileTree) (loc : Location) : Option Node := t.root.get? loc

/-- Whether a directory stands at a location. -/
def isDirectoryAt (t : FileTree) (loc : Location) : Bool :=
  ((t.get? loc).map Node.isDirectory).getD false

/-- What stands at a location for whoever has come there on a path. The current directory and
those above it are there even if they were taken away. -/
def reached? (t : FileTree) (loc : Location) : Option Node :=
  (t.get? loc).or (if loc.isPrefixOf t.current then some .emptyDirectory else none)

/-- Whether a path that leads to a location leads to a directory. -/
def reachesDirectory (t : FileTree) (loc : Location) : Bool :=
  ((t.reached? loc).map Node.isDirectory).getD false

/-- Follow parts from a location, each of which has to exist. -/
def walk (t : FileTree) (loc : Location) : List String → Except FileFault Location
  | [] => if (t.reached? loc).isSome then .ok loc else .error .missing
  | part :: parts =>
    match t.reached? loc with
    | none => .error .missing
    | some (.file _) => .error .notDirectory
    | some (.directory _) =>
      if Path.isIdle part then t.walk loc parts
      else if part = ".." then t.walk loc.dropLast parts
      else if maxName < part.utf8ByteSize then .error .nameTooLong
      else if (t.get? (loc ++ [part])).isSome then t.walk (loc ++ [part]) parts
      else .error .missing

/-- Where the resolution of a path starts. -/
def start (t : FileTree) (p : Path) : Location :=
  if p.isAbsolute then [] else t.current

/-- The faults of a path that do not depend on what exists. -/
def checkText (p : Path) : Except FileFault Unit :=
  if p.text.toList.contains '\x00' then .error .zeroInPath
  else if p = Path.empty then .error .missing
  else if maxPath < p.text.utf8ByteSize then .error .nameTooLong
  else .ok ()

/-- The parts of a path that are followed: a leading `.` is one of them. -/
def steps (p : Path) : List String :=
  if p.anchor = .here then "." :: p.parts else p.parts

/-- The location of what a path leads to. -/
def resolve (t : FileTree) (p : Path) : Except FileFault Location := do
  checkText p
  t.walk (t.start p) (steps p)

/-- What a path leads to. -/
def find? (t : FileTree) (p : Path) : Option Node :=
  match t.resolve p with
  | .ok loc => t.reached? loc
  | .error _ => none

/-- Whether a path leads to an entry. -/
def contains (t : FileTree) (p : Path) : Bool := (t.find? p).isSome

/-- Whether a path leads to a directory. -/
def isDirectory (t : FileTree) (p : Path) : Bool :=
  ((t.find? p).map Node.isDirectory).getD false

/-- The last part of a path whose directory was found. -/
inductive Last where
  /-- A name, and whether a slash follows it. -/
  | name (s : String) (slash : Bool)
  /-- The directory itself. -/
  | dot
  /-- The directory above. -/
  | dotDot
  /-- The root. -/
  | root
deriving DecidableEq, Repr

/-- A list without its last element, and that element. -/
def unsnoc? {α : Type} : List α → Option (List α × α)
  | [] => none
  | [a] => some ([], a)
  | a :: as => (unsnoc? as).map fun (front, last) => (a :: front, last)

/-- The directory that the last part of a path is looked up in, and that part. -/
def resolveLast (t : FileTree) (p : Path) : Except FileFault (Location × Last) := do
  checkText p
  let parts := steps p
  let shown := (parts.reverse.dropWhile (· == "")).reverse
  let slash := shown.length != parts.length
  match unsnoc? shown with
  | none => .ok ([], .root)
  | some (front, part) =>
    let loc ← t.walk (t.start p) front
    if !t.reachesDirectory loc then .error .notDirectory
    else if part = "." then .ok (loc, .dot)
    else if part = ".." then .ok (loc, .dotDot)
    else if (t.get? loc).isNone then .error .missing
    else if maxName < part.utf8ByteSize then .error .nameTooLong
    else .ok (loc, .name part slash)

/-- Make one directory. -/
def makeDirectory (t : FileTree) (p : Path) : Except FileFault FileTree := do
  match ← t.resolveLast p with
  | (loc, .name name _) =>
    if (t.get? (loc ++ [name])).isSome then .error .taken
    else .ok { t with root := t.root.put (loc ++ [name]) .emptyDirectory }
  | _ => .error .taken

/-- A path and the directories above it, from the path upwards. The length of the path bounds
how many there are. -/
def upwards (p : Path) : Nat → List Path
  | 0 => []
  | n + 1 =>
    p :: match p.parent? with
      | none => []
      | some q => if q = Path.empty then [] else upwards q n

section

-- how one directory is made
variable (make : FileTree → Path → Except FileFault FileTree)

/-- Make a directory that may exist. -/
def ensureDirectory (t : FileTree) (p : Path) : Except FileFault FileTree :=
  match make t p with
  | .ok t => .ok t
  | .error f => if t.isDirectory p then .ok t else .error f

/-- Make the missing directories among `p` and those above it, the highest first. What was
made stays if a lower one cannot be made. -/
def makeMissing (t : FileTree) : List Path → FileTree × Except FileFault Unit
  | [] => (t, .ok ())
  | p :: above =>
    match t.ensureDirectory make p with
    | .ok t => (t, .ok ())
    | .error .missing =>
      match t.makeMissing above with
      | (t, .error f) => (t, .error f)
      | (t, .ok ()) =>
        match t.ensureDirectory make p with
        | .ok t => (t, .ok ())
        | .error f => (t, .error f)
    | .error f => (t, .error f)

end

/-- Make a directory and all missing ones above it, each of them in the given way. The empty path
needs none. -/
def makeDirectories (t : FileTree) (p : Path)
    (make : FileTree → Path → Except FileFault FileTree := makeDirectory) :
    FileTree × Except FileFault Unit :=
  if p = Path.empty then (t, .ok ())
  else t.makeMissing make (upwards p (p.parts.length + 1))

/-- The location at which a file can be written. -/
def fileLocation (t : FileTree) (p : Path) : Except FileFault Location := do
  match ← t.resolveLast p with
  | (loc, .name name slash) =>
    if slash then .error .isDirectory
    else if t.isDirectoryAt (loc ++ [name]) then .error .isDirectory
    else .ok (loc ++ [name])
  | _ => .error .isDirectory

/-- Put a file at a location. -/
def putFile (t : FileTree) (loc : Location) (content : String) : FileTree :=
  { t with root := t.root.put loc (.file content) }

/-- Write a file, replacing one that is there. -/
def writeFile (t : FileTree) (p : Path) (content : String) : Except FileFault FileTree :=
  (t.fileLocation p).map (t.putFile · content)

/-- Move a file onto a path, replacing a file that is there. -/
def moveFile (t : FileTree) (source target : Path) : Except FileFault FileTree := do
  let (from_, name) ← t.resolveLast source
  let (to_, last) ← t.resolveLast target
  match name, last with
  | .name name slash, .name last slash' =>
    match t.get? (from_ ++ [name]) with
    | none => .error .missing
    | some n =>
      if slash || slash' then .error .notDirectory
      else if t.isDirectoryAt (to_ ++ [last]) then .error .isDirectory
      else .ok { t with root := (t.root.erase (from_ ++ [name])).put (to_ ++ [last]) n }
  | _, _ => .error .busy

/-- The content of a file. -/
def readFile (t : FileTree) (p : Path) : Except FileFault String := do
  let loc ← t.resolve p
  match t.reached? loc with
  | some (.file content) => .ok content
  | some (.directory _) => .error .isDirectory
  | none => .error .missing

/-- The names of the files in a directory. -/
def fileNames (t : FileTree) (p : Path) : List String :=
  match t.find? p with
  | some (.directory entries) => (entries.map (·.1)).filter fun name =>
      ((Node.directory entries).child? name).any (!·.isDirectory)
  | _ => []

/-- Take away an empty directory. -/
def dropDirectory (t : FileTree) (p : Path) : Except FileFault FileTree := do
  match ← t.resolveLast p with
  | (loc, .name name _) => .ok { t with root := t.root.erase (loc ++ [name]) }
  | (_, .dot) => .error .invalid
  | (_, .dotDot) => .error .notEmpty
  | (_, .root) => .error .busy

/-- Empty the directory at a location, if one is there, entry by entry. -/
def emptyDirectory (t : FileTree) (loc : Location) (refuses : Location → Option Refusal) :
    FileTree × Option Refusal :=
  match t.get? loc with
  | some (.directory entries) =>
    let (kept, refused?) := Node.removeEntries refuses loc entries
    ({ t with root := t.root.put loc (.directory kept) }, refused?)
  | _ => (t, none)

/-- Remove a directory with everything in it: empty it and then take it away. If the path no
longer leads anywhere once the directory is empty, the directory itself stays. What is removed
stays so if something else may not be. -/
def removeDirectory (t : FileTree) (p : Path)
    (refuses : Location → Option Refusal := fun _ => none) : FileTree × Except FileFault Unit :=
  match t.resolve p with
  | .error f => (t, .error f)
  | .ok loc =>
    if t.reachesDirectory loc then
      match t.emptyDirectory loc refuses with
      | (emptied, some r) => (emptied, .error (.refused r))
      | (emptied, none) =>
        match emptied.dropDirectory p with
        | .ok t =>
          match refuses loc with
          | none => (t, .ok ())
          | some r => (emptied, .error (.refused r))
        | .error .missing => (emptied, .ok ())
        | .error f => (emptied, .error f)
    else (t, .error .notDirectory)

/-- Remove a file. -/
def removeFile (t : FileTree) (p : Path) : Except FileFault FileTree := do
  match ← t.resolveLast p with
  | (loc, .name name false) =>
    match t.get? (loc ++ [name]) with
    | some (.file _) => .ok { t with root := t.root.erase (loc ++ [name]) }
    | some (.directory _) => .error .isDirectory
    | none => .error .missing
  | _ => .error .isDirectory

/-- The entries below the current directory, each with its path from there; the path of a
directory ends in a slash. -/
def entries (t : FileTree) : List (String × Option String) :=
  match t.get? t.current with
  | some (.directory entries) =>
    (Node.listingOf [] entries).map fun e =>
      ("/".intercalate e.1 ++ (if e.2.isSome then "" else "/"), e.2)
  | _ => []

end FileTree

end ApiProxy
