import ApiProxy.Json.Fault
import ApiProxy.Template

/-!
# Failures

What can stop a run, as causes. `Failure.message` words a failure, `Failure.cause?` words what
is behind it, and `Failure.exitCode` is the exit code of a program that it stops: 2 for a
wrong invocation, 3 if the description cannot be fetched, 1 for everything else.

An error reaches the end of a program as a chain: the contexts in which it was met, a failure, and
what is behind it. The first failure in the chain decides on the exit code.
-/

namespace ApiProxy

/-- A wrong invocation, found before anything is changed. -/
inductive UsageFault where
  /-- The working directory does not exist. -/
  | directoryMissing
  /-- The working directory has no project file. -/
  | projectMissing
  /-- The folder for the output looks like a file. -/
  | folderNotDirectory
  /-- The description has no module of that name. -/
  | moduleUnknown (name : String)
  /-- Neither an address nor a file to read the description from is given. -/
  | sourceMissing
  /-- Any other, by its wording. -/
  | stated (text : String)
deriving DecidableEq, Repr

/-- An argument that a function cannot work with. -/
inductive ArgumentFault where
  /-- A generated path that leads out of the output folder, or to no file in it. -/
  | unsafePath (relative : String)
  /-- A name that is no output format. -/
  | outputFormat (name : String)
  /-- Any other, by its wording. -/
  | stated (text : String)
deriving DecidableEq, Repr

/-- Why a disk refuses what could be done as far as its files go. -/
inductive Refusal where
  /-- A right is missing. -/
  | denied
  /-- Nobody has the right. -/
  | forbidden
  | readOnly
  /-- The disk is full. -/
  | noSpace
  /-- The user may not have more. -/
  | overQuota
  | tooLarge
  /-- The device fails. -/
  | broken
  /-- Any other reason, by its wording. -/
  | stated (text : String)
deriving DecidableEq, Repr

/-- What the file system says when an operation fails. -/
inductive FileFault where
  | missing
  | taken
  | notDirectory
  | isDirectory
  | notEmpty
  | busy
  | invalid
  | nameTooLong
  /-- A path with a zero character in it. -/
  | zeroInPath
  | refused (reason : Refusal)
  /-- Any other, by its wording. -/
  | stated (text : String)
deriving DecidableEq, Repr

/-- Why a description cannot be fetched. -/
inductive FetchFault where
  /-- The file that holds it cannot be read. -/
  | file (fault : FileFault)
  /-- The address is none of a service. -/
  | badAddress
  /-- Nobody answers. -/
  | unreachable
  /-- The service refuses with a status. -/
  | refused (status : Nat)
  /-- The answer is none that a service gives. -/
  | unreadable
  /-- The answer breaks off. -/
  | truncated
  /-- Any other, by its wording. -/
  | stated (text : String)
deriving DecidableEq, Repr

/-- Why a document is not accepted. -/
inductive DocumentFault where
  /-- It is no API description. -/
  | unreadable (fault : Json.Fault)
  /-- Any other reason, by its wording. -/
  | stated (text : String)
deriving DecidableEq, Repr

/-- Why a template cannot be filled. -/
inductive TemplateFault where
  /-- The context lacks a value. -/
  | unbound (value : Template.Unbound)
  /-- Any other reason, by its wording. -/
  | stated (text : String)
deriving DecidableEq, Repr

/-- What stops a run. -/
inductive Failure where
  | usage (fault : UsageFault)
  /-- The description cannot be had from its location. -/
  | fetch (location : String) (fault : FetchFault)
  /-- An operation on a path fails. -/
  | file (path : String) (fault : FileFault)
  | document (fault : DocumentFault)
  | template (name : String) (fault : TemplateFault)
  | argument (fault : ArgumentFault)
deriving DecidableEq, Repr

/-- The wording of a wrong invocation. -/
def UsageFault.message : UsageFault → String
  | directoryMissing => "Specified directory does not exist."
  | projectMissing => "No project file(csproj) found in the directory."
  | folderNotDirectory => "Option folder should be a directory."
  | moduleUnknown name => "Module name: " ++ name ++ " is invalid"
  | sourceMissing => "Either a remote service URL or a model file is required."
  | stated text => text

/-- The wording of a bad argument. -/
def ArgumentFault.message : ArgumentFault → String
  | unsafePath relative => "generated path must stay inside the output folder: " ++ relative
  | outputFormat name =>
    "invalid output format: '" ++ name ++ "' (expected: json, text, or pretty)"
  | stated text => text

/-- The wording of a refusal by the disk. -/
def Refusal.message : Refusal → String
  | denied => "Permission denied (os error 13)"
  | forbidden => "Operation not permitted (os error 1)"
  | readOnly => "Read-only file system (os error 30)"
  | noSpace => "No space left on device (os error 28)"
  | overQuota => "Disk quota exceeded (os error 122)"
  | tooLarge => "File too large (os error 27)"
  | broken => "Input/output error (os error 5)"
  | stated text => text

/-- The wording of what the file system says. -/
def FileFault.message : FileFault → String
  | missing => "No such file or directory (os error 2)"
  | taken => "File exists (os error 17)"
  | notDirectory => "Not a directory (os error 20)"
  | isDirectory => "Is a directory (os error 21)"
  | notEmpty => "Directory not empty (os error 39)"
  | busy => "Device or resource busy (os error 16)"
  | invalid => "Invalid argument (os error 22)"
  | nameTooLong => "File name too long (os error 36)"
  | zeroInPath => "file name contained an unexpected NUL byte"
  | refused reason => reason.message
  | stated text => text

/-- The wording of what keeps a description from being fetched. -/
def FetchFault.message : FetchFault → String
  | file fault => fault.message
  | badAddress => "the address is not that of a service"
  | unreachable => "the service cannot be reached"
  | refused status => "the service answers with status " ++ Text.decimal status
  | unreadable => "the answer of the service cannot be understood"
  | truncated => "the answer of the service breaks off"
  | stated text => text

/-- The wording of what is wrong with a document. -/
def DocumentFault.message : DocumentFault → String
  | unreadable fault => "invalid API description model: " ++ fault.message
  | stated text => text

/-- The wording of why a context does not have the value of a name. -/
def Template.Lack.message (name : String) : Template.Lack → String
  | missing => "Failed to access variable in strict mode Some(\"" ++ name ++ "\")"
  | nameless => "Cannot access array/vector with string index, " ++ name

/-- The wording of what is wrong with a template of the given name. -/
def TemplateFault.message (template : String) : TemplateFault → String
  | unbound v =>
    "Error rendering \"" ++ template ++ "\" line " ++ Text.decimal v.place.line ++ ", col " ++
      Text.decimal v.place.column ++ ": " ++ v.lack.message v.name
  | stated text => text

namespace Failure

/-- The wording of a failure. -/
def message : Failure → String
  | usage fault => fault.message
  | fetch location _ => "Failed to fetch API description model from " ++ location
  | file path _ => "I/O error on " ++ path
  | document fault => "Serialization error: " ++ fault.message
  | template name fault => "Template '" ++ name ++ "' failed: " ++ fault.message name
  | argument fault => "Invalid argument: " ++ fault.message

/-- The wording of what is behind a failure, if something else is. -/
def cause? : Failure → Option String
  | fetch _ fault => some fault.message
  | file _ fault => some fault.message
  | document (.unreadable fault) => some fault.message
  | _ => none

end Failure

/-- A link in the chain of an error. -/
inductive Link where
  /-- A context in which what follows was met. -/
  | context (text : String)
  | failure (f : Failure)
  /-- An error that is no failure, by its wording. -/
  | foreign (text : String)
deriving DecidableEq, Repr

namespace Link

/-- The wording of a link. -/
def text : Link → String
  | context text | foreign text => text
  | failure f => f.message

/-- The failure that a link is, if it is one. -/
def failure? : Link → Option Failure
  | failure f => some f
  | context _ | foreign _ => none

/-- The wording of a chain in one line. -/
def line (links : List Link) : String := ": ".intercalate (links.map text)

/-- An error under the contexts in which it was met, the first context innermost: a chain from the
outermost context on. -/
def under (contexts : List String) (error : List Link) : List Link :=
  contexts.reverse.map context ++ error

end Link

namespace Failure

/-- A failure and what is behind it. -/
def links (f : Failure) : List Link := .failure f :: f.cause?.toList.map .foreign

/-- A failure and its cause in one line, under the contexts in which it was met, the first
context innermost. -/
def chain (contexts : List String) (f : Failure) : String :=
  Link.line (Link.under contexts f.links)

end Failure

/-- The number with which a program ends. -/
structure ExitCode where
  value : Int
deriving DecidableEq, Repr

namespace ExitCode

/-- The code of a program that has done its work. -/
def success : ExitCode := ⟨0⟩

/-- The code for a failure that has no code of its own. -/
def failure : ExitCode := ⟨1⟩

/-- The code for a wrong invocation. -/
def usage : ExitCode := ⟨2⟩

/-- The code for a description that cannot be fetched. -/
def fetch : ExitCode := ⟨3⟩

instance : Inhabited ExitCode := ⟨success⟩

/-- Whether a code says that the work was done. -/
def isSuccess (c : ExitCode) : Bool := c.value == 0

/-- The text of a code. -/
def text (c : ExitCode) : String := String.ofList (Json.integerChars c.value)

end ExitCode

/-- The exit code for a failure. -/
def Failure.exitCode : Failure → ExitCode
  | usage _ | argument _ => .usage
  | fetch .. => .fetch
  | file .. | document _ | template .. => .failure

/-- The exit code for a chain: that of the first failure in it, and without a failure the code that
says nothing more. -/
def ExitCode.ofChain (links : List Link) : ExitCode :=
  match links.findSome? Link.failure? with
  | some f => f.exitCode
  | none => .failure

end ApiProxy
