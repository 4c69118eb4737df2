import ApiProxy.FileTree

/-!
# Disks

A file tree lies on a disk, which may refuse what could be done as far as files and directories
go: a right is missing, the disk is full, the device fails. A file is written in several calls: it
is created, which empties it, then its content is written, which may break off after some of it,
and then it may be brought to the device.

What a disk refuses depends on the tree and on the call. It refuses no call that fails anyway, and
looking something up or reading it is never refused. Contents are texts, so one breaks off between
two characters.
-/

namespace ApiProxy

/-- What a disk may be asked to do. -/
inductive DiskCall where
  | makeDirectory (p : Path)
  /-- Open a file for writing, which is made or emptied. -/
  | create (p : Path)
  /-- Bring a file to the device. -/
  | sync (p : Path)
  | move (source target : Path)
  /-- Take away the entry at a location while something is removed. -/
  | remove (loc : Location)
deriving DecidableEq, Repr

/-- A disk: the calls that it refuses, and the contents that it does not write to the end. -/
structure Disk where
  refuses : FileTree → DiskCall → Option Refusal
  /-- Whether writing a content breaks off, after how many characters, and why. -/
  breaksOff : FileTree → Path → String → Option (Nat × Refusal)

namespace Disk

/-- The disk that does whatever can be done. -/
def sound : Disk := ⟨fun _ _ => none, fun _ _ _ => none⟩

instance : Inhabited Disk := ⟨sound⟩

variable (d : Disk) (t : FileTree)

/-- A call with the given outcome, which may be refused if it could be done. -/
def attempt (c : DiskCall) (outcome : Except FileFault FileTree) :
    Except FileFault FileTree := do
  let t' ← outcome
  match d.refuses t c with
  | none => .ok t'
  | some r => .error (.refused r)

/-- Make one directory. -/
def makeDirectory (p : Path) : Except FileFault FileTree :=
  d.attempt t (.makeDirectory p) (t.makeDirectory p)

/-- Make a directory and all missing ones above it. -/
def makeDirectories (p : Path) : FileTree × Except FileFault Unit :=
  t.makeDirectories p d.makeDirectory

/-- The first characters of a content. -/
def beginning (content : String) (count : Nat) : String := .ofList (content.toList.take count)

/-- Create a file and write its content, as far as that comes. -/
def writeFile (p : Path) (content : String) : FileTree × Except FileFault Unit :=
  match t.fileLocation p with
  | .error f => (t, .error f)
  | .ok loc =>
    match d.refuses t (.create p) with
    | some r => (t, .error (.refused r))
    | none =>
      match d.breaksOff t p content with
      | none => ((t.putFile loc "").putFile loc content, .ok ())
      | some (count, r) =>
        ((t.putFile loc "").putFile loc (beginning content count), .error (.refused r))

/-- Bring a file to the device, which is not seen in the tree. -/
def syncFile (p : Path) : Except FileFault FileTree := d.attempt t (.sync p) (.ok t)

/-- Move a file onto a path, replacing a file that is there. -/
def moveFile (source target : Path) : Except FileFault FileTree :=
  d.attempt t (.move source target) (t.moveFile source target)

/-- Remove a directory with everything in it. -/
def removeDirectory (p : Path) : FileTree × Except FileFault Unit :=
  t.removeDirectory p fun loc => d.refuses t (.remove loc)

end Disk

end ApiProxy
