import ApiProxy.Text.Literal

/-!
# Log entries

A log entry comes from a part of the program and is a message with named details. The details
stand behind the message, a text either as it is or as a literal. Control characters in a message
that could steer a terminal are escaped, so that a name from outside cannot do so.
-/

namespace ApiProxy

/-- How important a log entry is. -/
inductive LogLevel where
  | debug
  | info
  | warn
  | error
deriving DecidableEq, Repr

/-- The rank of a level: a log that shows one level shows all that rank higher. -/
def LogLevel.rank : LogLevel → Nat
  | debug => 0
  | info => 1
  | warn => 2
  | error => 3

/-- A part of the program that leaves log entries. -/
inductive LogOrigin where
  /-- The program as a whole. -/
  | program
  /-- A run. -/
  | run
  /-- The command that generates. -/
  | generation
  /-- The command that completes command lines. -/
  | completions
  /-- The writing of generated files. -/
  | files
  /-- The output folder and the copy of the description in it. -/
  | output
  /-- A service that gives descriptions. -/
  | service
  /-- A saved file that holds a description. -/
  | savedFile
  /-- The selection of a module. -/
  | selection
  /-- The generation of files. -/
  | generator
  /-- The methods of generated files. -/
  | method
  /-- The data types of a description. -/
  | dataType
deriving DecidableEq, Repr

/-- The name of an origin, by which its entries can be asked for. -/
def LogOrigin.name : LogOrigin → String
  | program => "proxygen"
  | run => "proxygen_cli::orchestrator"
  | generation => "proxygen_cli::commands::generate"
  | completions => "proxygen_cli::commands::completions"
  | files => "proxygen_files::filesystem"
  | output => "proxygen_files::artifact"
  | service => "proxygen_introspector::http"
  | savedFile => "proxygen_introspector::file"
  | selection => "proxygen_introspector::fetcher"
  | generator => "proxygen_codegen::generator"
  | method => "proxygen_codegen::method"
  | dataType => "proxygen_codegen::dto"

/-- An entry of a log. -/
structure LogEntry where
  level : LogLevel
  origin : LogOrigin
  message : String
  details : List (String × String) := []
deriving DecidableEq, Repr

namespace LogEntry

/-- How a character of a message is shown. Tabs and line ends stay. -/
def messageChar (c : Char) : List Char :=
  if c = '\x07' ∨ c = '\x08' ∨ c = '\x0c' ∨ c = '\x1b' ∨ c = '\x7f' then
    ['\\', 'x', Nat.digitChar (c.toNat / 16), Nat.digitChar (c.toNat % 16)]
  else if 0x80 ≤ c.toNat ∧ c.toNat ≤ 0x9F then Text.codePointEscape c
  else [c]

/-- The text of an entry: the message and behind it the details. -/
def text (e : LogEntry) : String :=
  e.details.foldl (fun s d => s ++ " " ++ d.1 ++ "=" ++ d.2)
    (String.ofList (e.message.toList.flatMap messageChar))

end LogEntry

namespace LogOrigin

/-- An entry about a step that only matters when something is looked into. -/
def debug (o : LogOrigin) (message : String) (details : List (String × String) := []) :
    LogEntry :=
  ⟨.debug, o, message, details⟩

/-- An entry about what was done. -/
def info (o : LogOrigin) (message : String) (details : List (String × String) := []) :
    LogEntry :=
  ⟨.info, o, message, details⟩

/-- An entry about something that may be a mistake. -/
def warn (o : LogOrigin) (message : String) : LogEntry := ⟨.warn, o, message, []⟩

/-- An entry about what stopped the program. -/
def error (o : LogOrigin) (message : String) : LogEntry := ⟨.error, o, message, []⟩

end LogOrigin

end ApiProxy
