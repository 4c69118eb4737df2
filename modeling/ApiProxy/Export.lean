import ApiProxy.Description.Document
import ApiProxy.SourceFile
import ApiProxy.World

/-!
# Writing generated files

Generated files are written below a base, in the order in which they were made, and the
directories that they need are made. A file that is to be written only once is skipped if
something is there already. A path that leads out of the base, or to no place in it, stops the
export.

An atomic export writes a file beside its place first, under its name with `.tmp` behind it, brings
it to the device, and then moves it there. If one of these steps fails, the others are left out, and
what is beside the place stays there.
-/

namespace ApiProxy

/-- How files are written. -/
structure ExportOptions where
  /-- Whether a file is written beside its place and then moved there. -/
  atomic : Bool := true
  /-- The directory from which written files are named in the log, if they lie in it. Otherwise
  they are named from the base. -/
  logRoot? : Option Path := none
deriving DecidableEq, Repr

/-- What an export did, in the order of the files. -/
structure ExportReport where
  written : List String
  /-- The files that were there and stayed. -/
  skipped : List String
deriving DecidableEq, Repr

namespace ExportReport

/-- Nothing was done. -/
def empty : ExportReport := ⟨[], []⟩

/-- How many files the report is about. -/
def total (r : ExportReport) : Nat := r.written.length + r.skipped.length

/-- Put a file in front, written or skipped. -/
def cons (written : Bool) (path : String) (r : ExportReport) : ExportReport :=
  if written then { r with written := path :: r.written }
  else { r with skipped := path :: r.skipped }

/-- Two reports, one behind the other. -/
def append (r s : ExportReport) : ExportReport := ⟨r.written ++ s.written, r.skipped ++ s.skipped⟩

instance : Append ExportReport := ⟨append⟩

theorem total_cons (written : Bool) (path : String) (r : ExportReport) :
    (r.cons written path).total = r.total + 1 := by
  cases written <;> simp [cons, total] <;> omega

end ExportReport

/-- What is put behind the name of a file while it is written. -/
def temporaryEnding : String := ".tmp"

/-- Whether a component leads nowhere but down from where a path has come to. -/
def Path.Component.staysBelow : Path.Component → Bool
  | here | name _ => true
  | root | back => false

/-- Whether a relative path may be written to: it is not empty, does not start at the root, and
goes back nowhere. -/
def staysBelow (relative : String) : Bool :=
  relative != "" && (Path.ofText relative).components.all (·.staysBelow)

/-- The place of a generated path below a base. -/
def locate (base : Path) (relative : String) : Except Failure Path :=
  if staysBelow relative then .ok ((slashParts relative).foldl Path.join base)
  else .error (.argument (.unsafePath relative))

/-- The path under which a file is written before it is moved to its place. -/
def temporaryPath (p : Path) : Path :=
  p.withFileName (p.fileName?.getD "" ++ temporaryEnding)

namespace ExportOptions

/-- How a written file is named in the log. -/
def logPath (o : ExportOptions) (p : Path) (relative : String) : String :=
  match o.logRoot?.bind p.relativeTo? with
  | some q => q.text
  | none => relative

end ExportOptions

namespace Job

/-- Make the directories above a path. -/
def makeRoom (p : Path) : Job Unit :=
  match p.parent? with
  | none => pure ()
  | some parent => changePartly parent (·.makeDirectories · parent)

/-- Write a file at its place, or beside it and then move it there. -/
def write (atomic : Bool) (p : Path) (content : String) : Job Unit := do
  if atomic then
    changePartly (temporaryPath p) (·.writeFile · (temporaryPath p) content)
    change (temporaryPath p) (·.syncFile · (temporaryPath p))
    change p (·.moveFile · (temporaryPath p) p)
  else changePartly p (·.writeFile · p content)

/-- Write one generated file, unless it is to be kept; whether it was written. -/
def exportFile (o : ExportOptions) (base : Path) (f : SourceFile) : Job Bool := do
  let p ← ofExcept (locate base f.path)
  let w ← get
  if f.policy = .createOnce ∧ w.tree.contains p then
    note [LogOrigin.files.debug "Keeping existing user file" [("path", f.path)]]
    return false
  else
    makeRoom p
    write o.atomic p f.content
    note [LogOrigin.files.info ("Create " ++ o.logPath p f.path)]
    return true

/-- Write generated files below a base. -/
def exportFiles (o : ExportOptions) (base : Path) : List SourceFile → Job ExportReport
  | [] => pure .empty
  | f :: fs => do
    let written ← exportFile o base f
    let report ← exportFiles o base fs
    return report.cons written f.path

/-- Save a copy of a description as indented JSON. -/
def saveDescription (p : Path) (m : ApiDescription) : Job Unit := do
  makeRoom p
  changePartly p (·.writeFile · p m.text)
  note [LogOrigin.output.debug "Persisted API description model" [("path", p.text)]]

/-- Remove a directory with everything in it; whether there was one. -/
def removeOutput (p : Path) : Job Bool := do
  let w ← get
  if w.tree.isDirectory p then
    changePartly p (·.removeDirectory · p)
    note [LogOrigin.output.info "Removed output folder" [("path", p.text)]]
    return true
  else
    note [LogOrigin.output.debug "Nothing to remove" [("path", p.text)]]
    return false

end Job

end ApiProxy
