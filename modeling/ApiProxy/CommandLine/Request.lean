import ApiProxy.CommandLine.Arguments
import ApiProxy.RunOptions

/-!
# What a command line asks for

The commands of the program are `generate`, `remove` and `completions`; `help` shows help. The
log can be made verbose and the output format chosen before or behind the name of a command; of
two formats, one before and one behind, the latter counts. The module and the address of the
service may also come from the environment, where what is given on the command line comes first.
To generate, an address or a saved file has to be known.

Help is given about the program or about one of its commands.
-/

namespace ApiProxy

/-- A shell that command lines can be completed for. -/
inductive Shell where
  | bash
  | elvish
  | fish
  | powershell
  | zsh
deriving DecidableEq, Repr

namespace Shell

/-- The shells by name. -/
def names : List (String × Shell) :=
  [("bash", bash), ("elvish", elvish), ("fish", fish), ("powershell", powershell), ("zsh", zsh)]

/-- The shell of a name. -/
def ofName? (name : String) : Option Shell := names.lookup name

/-- The name of a shell. -/
def name : Shell → String
  | bash => "bash"
  | elvish => "elvish"
  | fish => "fish"
  | powershell => "powershell"
  | zsh => "zsh"

end Shell

/-- A command of the program. -/
inductive Command where
  | generate (o : RunOptions)
  | remove (o : RunOptions)
  | completions (shell : Shell)
deriving DecidableEq, Repr

/-- A command and how it is run. -/
structure Invocation where
  command : Command
  verbose : Bool
  /-- The name of the output format, which need not be one. -/
  format : String
deriving DecidableEq, Repr

/-- What help is given about. -/
inductive HelpTopic where
  | program
  | generate
  | remove
  | completions
deriving DecidableEq, Repr

/-- What a command line asks for. -/
inductive Request where
  | run (i : Invocation)
  | help (topic : HelpTopic)
  | version
  /-- Nothing that can be understood. -/
  | misuse
deriving DecidableEq, Repr

/-- The values of the environment by name. -/
abbrev Environment := String → Option String

namespace CommandLine

/-- Any text is a value. -/
def anyText : OptionKind := .value fun _ => true

/-- Any text that is not empty is a value. -/
def path : OptionKind := .value (· != "")

/-- The option that makes the log verbose. -/
def verboseOption : OptionSpec :=
  { name := "verbose", letter? := some 'v', kind := .flag,
    about := "Enable verbose logging (debug level)" }

/-- The option for the output format. -/
def formatOption : OptionSpec :=
  { name := "format", letter? := none, kind := anyText,
    about := "Output format (json, text, pretty)", default? := some "pretty" }

/-- The option that asks for help, which may say more if it is asked for by its long name. -/
def helpOption (hasMore : Bool) : OptionSpec :=
  { name := "help", letter? := some 'h', kind := .help,
    about := if hasMore then "Print help (see more with '--help')" else "Print help" }

/-- The option that asks for the version. -/
def versionOption : OptionSpec :=
  { name := "version", letter? := some 'V', kind := .version, about := "Print version" }

/-- The option for the directory of the project. -/
def directoryOption : OptionSpec :=
  { name := "working-directory", letter? := some 'd', kind := path,
    about := "Directory of the client project (must contain a .csproj file)", default? := some "." }

/-- The option for the folder of the output. -/
def folderOption (about : String) : OptionSpec :=
  { name := "folder", letter? := some 'f', kind := anyText, about }

/-- What `generate` is about. -/
def generateAbout : String := "Generate client proxies"

/-- What `remove` is about. -/
def removeAbout : String := "Remove generated client proxies"

/-- What `completions` is about. -/
def completionsAbout : String := "Generate shell completions"

/-- The commands, each with what it is about. -/
def commands : List (String × String) :=
  [("generate", generateAbout), ("remove", removeAbout), ("completions", completionsAbout),
    ("help", "Print this message or the help of the given subcommand(s)")]

/-- The rules for what stands before the name of a command. -/
def topRules : Rules where
  options := [verboseOption, formatOption, helpOption false, versionOption]
  commands := commands

/-- The rules for the arguments of `generate`. -/
def generateRules : Rules where
  options :=
    [directoryOption, verboseOption, formatOption,
      { name := "module", letter? := some 'm', kind := anyText,
        about := "Module to generate proxies for", environmentName? := some "PROXYGEN_MODULE",
        default? := some "app" },
      { name := "url", letter? := some 'u', kind := anyText,
        about := "Base URL of the remote service", environmentName? := some "PROXYGEN_URL" },
      { name := "model-file", letter? := none, kind := path,
        about := "Read the model from a saved JSON document instead of the service" },
      folderOption "Output folder inside the working directory (flat layout)",
      { name := "without-contracts", letter? := none, kind := .flag,
        about := "Skip service interfaces and data-transfer types" },
      helpOption true]

/-- The rules for the arguments of `remove`. -/
def removeRules : Rules where
  options :=
    [directoryOption, verboseOption, folderOption "Output folder inside the working directory",
      formatOption, helpOption true]

/-- The rules for the arguments of `completions`. -/
def completionsRules : Rules where
  options := [verboseOption, formatOption, helpOption false]
  word? := some
    { name := "shell", letter? := none, kind := .value fun s => (Shell.ofName? s).isSome,
      about := "Target shell for completion generation [possible values: " ++
        ", ".intercalate (Shell.names.map (·.1)) ++ "]" }

/-- Read all arguments of a command. -/
def readAll (g : Rules) (args : List String) : Except Stop Reading := do
  let (r, _) ← g.scan .start args
  r.settle

/-- The topic of the help about a command. -/
def helpTopic : String → HelpTopic
  | "generate" => .generate
  | "remove" => .remove
  | "completions" => .completions
  | _ => .program

/-- Where a run works. -/
def runOptions (r : Reading) : RunOptions where
  workDirectory := .ofText ((r.value? "working-directory").getD ".")
  givenFolder? := r.value? "folder"

/-- The options of `generate`. -/
def generateOptions (env : Environment) (r : Reading) : RunOptions :=
  { runOptions r with
    moduleName := ((r.value? "module").or (env "PROXYGEN_MODULE")).getD "app"
    address? := (r.value? "url").or (env "PROXYGEN_URL")
    modelFile? := (r.value? "model-file").map Path.ofText
    withoutContracts := r.has "without-contracts" }

/-- Read the arguments of a command of the given name: the command and what is said beside
it. -/
def readCommand (env : Environment) (name : String) (args : List String) :
    Except Stop (Command × Reading) :=
  match name with
  | "generate" => do
    let r ← readAll generateRules args
    let o := generateOptions env r
    if o.address?.isNone && o.modelFile?.isNone then .error .misuse
    else .ok (.generate o, r)
  | "remove" => do
    let r ← readAll removeRules args
    .ok (.remove (runOptions r), r)
  | "completions" => do
    let r ← readAll completionsRules args
    match (r.value? "shell").bind Shell.ofName? with
    | some shell => .ok (.completions shell, r)
    | none => .error .misuse
  | _ => .error .misuse

/-- What the arguments of `help` ask for: help about the program, or about one command. -/
def helpRequest : List String → Request
  | [] => .help .program
  | [name] => if (commands.lookup name).isSome then .help (helpTopic name) else .misuse
  | _ => .misuse

/-- What a reading that ended early asks for. -/
def stopRequest (topic : HelpTopic) : Stop → Request
  | .help => .help topic
  | .version => .version
  | .misuse => .misuse

/-- The invocation of a command from what was said before and behind its name. -/
def invocation (command : Command) (top r : Reading) : Invocation where
  command := command
  verbose := r.has "verbose" || top.has "verbose"
  format := ((r.value? "format").or (top.value? "format")).getD "pretty"

/-- What the arguments behind the name of a command ask for. -/
def commandRequest (env : Environment) (top : Reading) (name : String) (args : List String) :
    Request :=
  match readCommand env name args with
  | .error stop => stopRequest (helpTopic name) stop
  | .ok (command, r) =>
    match top.settle with
    | .error stop => stopRequest .program stop
    | .ok top => .run (invocation command top r)

end CommandLine

/-- What a command line asks for, given without the name of the program. -/
def Request.ofArguments (env : Environment) (args : List String) : Request :=
  match CommandLine.topRules.scan .start args with
  | .error stop => CommandLine.stopRequest .program stop
  | .ok (_, none) => .misuse
  | .ok (top, some (name, rest)) =>
    if name = "help" then CommandLine.helpRequest rest
    else CommandLine.commandRequest env top name rest

end ApiProxy
