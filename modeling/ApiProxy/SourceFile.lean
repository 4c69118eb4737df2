import ApiProxy.Json.Codec

/-!
# Generated files

A generated file has a path below the output folder, a content and a kind. The kind decides
what happens to a file that is there already: the stub of a proxy class belongs to the user
and is written only once, everything else is replaced. A file set may also come from a
document, where the policy is given beside the kind.
-/

namespace ApiProxy

open Json Json.Codec

/-- What a generated file holds. -/
inductive FileKind where
  | proxyClass
  | classStub
  | serviceInterface
  | dataType
deriving DecidableEq, Repr

/-- What happens to a file that is there already. -/
inductive WritePolicy where
  /-- It stays as it is. -/
  | createOnce
  /-- It is replaced. -/
  | overwrite
deriving DecidableEq, Repr

/-- The policy for files of a kind. -/
def FileKind.policy : FileKind → WritePolicy
  | classStub => .createOnce
  | proxyClass | serviceInterface | dataType => .overwrite

/-- The names of the kinds. -/
def FileKind.names : List (String × FileKind) :=
  [("proxy_class", proxyClass), ("class_stub", classStub),
    ("service_interface", serviceInterface), ("dto", dataType)]

/-- The names of the policies. -/
def WritePolicy.names : List (String × WritePolicy) :=
  [("create_once", createOnce), ("overwrite", overwrite)]

/-- A generated file. -/
structure SourceFile where
  /-- The path below the output folder, with slashes between its parts. -/
  path : String
  content : String
  kind : FileKind
  policy : WritePolicy
deriving DecidableEq, Repr

namespace SourceFile

/-- A file with the policy of its kind. -/
def ofKind (path content : String) (kind : FileKind) : SourceFile :=
  ⟨path, content, kind, kind.policy⟩

/-- A generated file in a document, where nothing may be left out. -/
def codec : Codec SourceFile :=
  strictRecord "GeneratedFile" ⟨"", "", .proxyClass, .overwrite⟩
    [ field "path" text (·.path) fun v x => { x with path := v },
      field "content" text (·.content) fun v x => { x with content := v },
      field "kind" (choice FileKind.names) (·.kind) fun v x => { x with kind := v },
      field "policy" (choice WritePolicy.names) (·.policy) fun v x => { x with policy := v } ]

end SourceFile

/-- Generated files in the order in which they were made. -/
structure FileSet where
  files : List SourceFile
deriving DecidableEq, Repr

namespace FileSet

/-- No files. -/
def empty : FileSet := ⟨[]⟩

instance : Inhabited FileSet := ⟨empty⟩

/-- Add a file behind the others. -/
def add (s : FileSet) (f : SourceFile) : FileSet := ⟨s.files ++ [f]⟩

/-- The files of two sets, one behind the other. -/
def append (s t : FileSet) : FileSet := ⟨s.files ++ t.files⟩

instance : Append FileSet := ⟨append⟩

/-- How many files there are. -/
def size (s : FileSet) : Nat := s.files.length

/-- The first file with the given path. -/
def find? (s : FileSet) (path : String) : Option SourceFile :=
  s.files.find? (·.path == path)

/-- How many files are of a kind. -/
def countOf (s : FileSet) (kind : FileKind) : Nat :=
  s.files.countP (·.kind == kind)

/-- The paths of the files. -/
def paths (s : FileSet) : List String := s.files.map (·.path)

/-- Generated files in a document. -/
def codec : Codec FileSet :=
  strictRecord "GeneratedCode" empty
    [field "files" (list SourceFile.codec) (·.files) fun v x => { x with files := v }]

end FileSet

end ApiProxy
