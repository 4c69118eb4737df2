import ApiProxy.CommandLine.Help
import ApiProxy.CommandLine.Report
import ApiProxy.LogFilter

/-!
# The program

A command line that asks for a command is carried out in a world. What the program shows is its
output, a log and, if it could not even begin, a complaint; it ends with 0 if the command did
its work and else with the exit code for the chain of what stopped it. A command line that cannot
be understood ends the program with 2, and an unknown output format with 1, before anything is
done.

The scripts by which shells complete command lines, and what is said about a command line that
cannot be understood, are put out as they are given.
-/

namespace ApiProxy

open CommandLine Text

/-- A failure that stopped a command, under the contexts in which it was met, the first context
innermost. -/
structure Stopped where
  contexts : List String
  failure : Failure
deriving DecidableEq, Repr

/-- The wording of what stopped a command. -/
def Stopped.message (s : Stopped) : String := s.failure.chain s.contexts

/-- The exit code of a program whose command was stopped. -/
def Stopped.exitCode (s : Stopped) : ExitCode :=
  .ofChain (Link.under s.contexts s.failure.links)

/-- What a program shows, and with what it ends. -/
structure Outcome where
  exitCode : ExitCode
  /-- The text of the result. -/
  output : String
  /-- The entries of the log that are shown. -/
  log : List LogEntry
  /-- What is said if the program could not begin. -/
  complaint? : Option String
  /-- What stopped the command, if something did. -/
  stopped? : Option Stopped
deriving DecidableEq, Repr

/-- The name and the version of the program. -/
def versionLine : String := programName ++ " 0.1.0"

/-- Texts that are put out as they are. -/
structure Wording where
  /-- The script by which a shell completes command lines of the program. -/
  script : Shell → String
  /-- What is said about a command line that cannot be understood. -/
  complaint : String

/-- The wording that says nothing. -/
def Wording.silent : Wording := ⟨fun _ => "", ""⟩

/-- The log filter that the environment asks for. If it asks for none that can be understood, all
entries from `info` on are shown. -/
def LogFilter.ofEnvironment (env : Environment) : LogFilter :=
  ((env "RUST_LOG").bind ofText?).getD (from_ .info)

/-- What surrounds a run of the program. -/
structure Surroundings where
  environment : Environment
  /-- Whether the output goes to a terminal. -/
  terminal : Bool
  times : RunTimes

/-- Whether a variable is set, and not to `0`. -/
def Environment.isOn (env : Environment) (name : String) : Bool :=
  match env name with
  | none => false
  | some value => value != "0"

/-- Whether colours are wanted: they can be forced or forbidden, where forcing wins; else a
terminal gets them, unless they are switched off. -/
def Surroundings.colored (s : Surroundings) : Bool :=
  if s.environment.isOn "CLICOLOR_FORCE" then true
  else if (s.environment "NO_COLOR").isSome then false
  else s.terminal && s.environment "CLICOLOR" != some "0"

/-- A job of the program: its failure comes with the contexts in which it was met. -/
abbrev Task (α : Type) : Type := ExceptT Stopped (ReaderT Disk (StateM World)) α

/-- Do a task in a world, on a disk. -/
def Task.perform {α : Type} (j : Task α) (w : World) (disk : Disk := .sound) :
    Except Stopped α × World := j.run disk w

/-- A job whose failure is met in the given contexts. -/
def Job.under {α : Type} (contexts : List String) (j : Job α) : Task α :=
  ExceptT.adapt (fun f => ⟨contexts, f⟩) j

namespace Command

/-- Carry out `generate`. The options are checked before the source is looked for. -/
def generation (o : RunOptions) : Task GenerationSummary := do
  Job.under [] (Job.check o)
  let source ← Job.under [] (Job.ofExcept o.source)
  let s ← Job.under ["failed to generate client proxies for module '" ++ o.moduleName ++ "'"]
    (Job.generate o source)
  Job.under [] (Job.note [LogOrigin.generation.info ("Generated " ++ decimal s.controllers ++
    " controllers and " ++ decimal s.dataTypes ++ " data types into " ++ s.output)])
  return s

/-- Carry out `remove`. -/
def removal (o : RunOptions) : Task RemovalSummary := do
  Job.under [] (Job.check o)
  Job.under ["failed to remove client proxies"] (Job.remove o)

/-- Carry out a command: the text that it puts out, where `shown` makes the text of a report and
`script` is that for a shell. -/
def task (shown : Json → String) (script : Shell → String) (t : RunTimes) : Command → Task String
  | generate o => do
    let s ← generation o
    return shown (s.report t)
  | remove o => do
    let s ← removal o
    return shown (s.report t)
  | completions shell => do
    Job.under [] (Job.note
      [LogOrigin.completions.info ("Generating " ++ shell.name ++ " completions")])
    return script shell

end Command

namespace Outcome

/-- The outcome of a program that ends with a text and nothing else. -/
def ofText (code : ExitCode) (text : String) : Outcome := ⟨code, text, [], none, none⟩

/-- The outcome of a program that could not begin. -/
def ofComplaint (code : ExitCode) (text : String) : Outcome := ⟨code, "", [], some text, none⟩

/-- The outcome of a command that left the given log. -/
def ofCommand (f : LogFilter) (log : List LogEntry) : Except Stopped String → Outcome
  | .ok text => ⟨.success, text, f.apply log, none, none⟩
  | .error s =>
    ⟨s.exitCode, "", f.apply (log ++ [LogOrigin.program.error s.message]), none, some s⟩

end Outcome

namespace Invocation

/-- Which log entries are shown. -/
def logFilter (env : Environment) (i : Invocation) : LogFilter :=
  if i.verbose then .from_ .debug else .ofEnvironment env

/-- The text of a report. -/
def shown (s : Surroundings) (format : OutputFormat) (report : Json) : String :=
  format.render s.colored report ++ "\n"

/-- Carry out a command in a world, on a disk: what is shown and the world afterwards. -/
def execute (s : Surroundings) (i : Invocation) (w : World) (disk : Disk := .sound)
    (wording : Wording := .silent) : Outcome × World :=
  match OutputFormat.ofName i.format with
  | .error f => (.ofComplaint .failure ("Error: " ++ f.message), w)
  | .ok format =>
    let (r, w) := (i.command.task (shown s format) wording.script s.times).perform
      { w with log := [], stages := [.start] } disk
    (.ofCommand (i.logFilter s.environment) w.log r, w)

end Invocation

/-- Do what a command line asks for. -/
def Request.execute (s : Surroundings) (r : Request) (w : World) (disk : Disk := .sound)
    (wording : Wording := .silent) : Outcome × World :=
  match r with
  | run i => i.execute s w disk wording
  | help topic => (.ofText .success (helpText s.environment topic), w)
  | version => (.ofText .success (versionLine ++ "\n"), w)
  | misuse => (.ofComplaint .usage wording.complaint, w)

/-- Run the program on its arguments. -/
def runProgram (s : Surroundings) (args : List String) (w : World) (disk : Disk := .sound)
    (wording : Wording := .silent) : Outcome × World :=
  (Request.ofArguments s.environment args).execute s w disk wording

end ApiProxy
