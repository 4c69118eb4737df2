import ApiProxy.Description.Basic
import ApiProxy.Failure
import ApiProxy.Log

/-!
# Selecting a module

A run works on one module of a description. The module is asked for by its name, in which the
case of ASCII letters does not matter; of several names that match, the first in order is
taken. The data types stay, since the controllers of the module may refer to any of them.
-/

namespace ApiProxy

/-- Whether two names differ at most in the case of ASCII letters. -/
def sameIgnoringCase (a b : String) : Bool :=
  a.toList.map Char.toLower == b.toList.map Char.toLower

namespace ApiDescription

/-- The first module whose name is the given one, up to the case of ASCII letters. -/
def moduleName? (m : ApiDescription) (name : String) : Option String :=
  m.modules.names.find? fun key => sameIgnoringCase key name

/-- The description with only the module of the given name in it. -/
def keepModule (m : ApiDescription) (name : String) : ApiDescription :=
  { m with modules :=
    ⟨m.modules.entries.filter (·.1 == name), m.modules.ascending.filter _⟩ }

/-- Narrow a description to one module. -/
def selectModule (m : ApiDescription) (name : String) : Except Failure ApiDescription :=
  match m.moduleName? name with
  | some key => .ok (m.keepModule key)
  | none => .error (.usage (.moduleUnknown name))

/-- What the selection of a module has to say. -/
def selectionNotes (m : ApiDescription) (name : String) : List LogEntry :=
  match m.moduleName? name with
  | some key => [LogOrigin.selection.debug "Selected module" [("module", key)]]
  | none => []

end ApiDescription

end ApiProxy
