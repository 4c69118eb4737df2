import ApiProxy.Source
import ApiProxy.Text.Blank

/-!
# Options of a run

A run works in the directory of a project and puts its files into a folder there:
`ClientProxies` unless a folder is given, where a blank name counts as none. `check` finds what
is wrong with the options before anything is changed: the directory has to exist and to hold a
project file, and the folder may not look like a file.

The description comes from a saved file or from a service; the file wins if both are given.
-/

namespace ApiProxy

/-- The options of a run. -/
structure RunOptions where
  /-- The directory of the project. -/
  workDirectory : Path
  /-- The module of the description that is worked on. -/
  moduleName : String := "app"
  /-- The address of the service that gives the description. -/
  address? : Option String := none
  /-- The document that holds the description. -/
  modelFile? : Option Path := none
  /-- The folder for the output, as it was given. -/
  givenFolder? : Option String := none
  /-- Whether service interfaces and data types are left out. -/
  withoutContracts : Bool := false
deriving DecidableEq, Repr

/-- The folder for the output if none is given. -/
def defaultFolder : String := "ClientProxies"

/-- The extension of project files, in lower case. -/
def projectExtension : String := "csproj"

/-- Whether a file name is that of a project file. -/
def isProjectFile (name : String) : Bool :=
  match Path.extensionOf? name with
  | some e => e.toList.map Char.toLower == projectExtension.toList
  | none => false

namespace RunOptions

/-- The folder for the output, without blanks at its ends, unless nothing is left of it. -/
def folder? (o : RunOptions) : Option String :=
  (o.givenFolder?.map Text.trim).filter (· != "")

/-- Whether the output goes into the default folder. -/
def usesDefaultFolder (o : RunOptions) : Bool := o.folder?.isNone

/-- The directory for the output. -/
def outputRoot (o : RunOptions) : Path :=
  o.workDirectory.join (o.folder?.getD defaultFolder)

/-- The path of the saved copy of the description. -/
def artifactPath (o : RunOptions) : Path :=
  o.outputRoot.join (o.moduleName ++ "-generate-proxy.json")

/-- A path as it is shown: from the directory of the project, if it lies in there. -/
def displayPath (o : RunOptions) (p : Path) : String :=
  ((p.relativeTo? o.workDirectory).getD p).text

/-- Where the description comes from. -/
def source (o : RunOptions) : Except Failure Source :=
  match o.modelFile?, o.address? with
  | some path, _ => .ok (.file path)
  | none, some address => .ok (.service address)
  | none, none => .error (.usage .sourceMissing)

/-- What is wrong with the options, if something is. -/
def check (o : RunOptions) (t : FileTree) : Except Failure Unit :=
  if !t.isDirectory o.workDirectory then .error (.usage .directoryMissing)
  else if !(t.fileNames o.workDirectory).any isProjectFile then .error (.usage .projectMissing)
  else if (o.folder?.bind fun f => (Path.ofText f).extension?).isSome then
    .error (.usage .folderNotDirectory)
  else .ok ()

end RunOptions

end ApiProxy
