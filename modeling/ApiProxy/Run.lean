import ApiProxy.Description.Selection
import ApiProxy.Export
import ApiProxy.Generation
import ApiProxy.RunOptions
import ApiProxy.Text.Decimal

/-!
# Runs

A run that generates asks a source for a description, narrows it to a module, writes the files
of its controllers and, with contracts, of its data types, and saves a copy of the description.
A run that removes takes the output folder away and asks nobody for anything. The options of a
run are checked before it starts.

A run that stops half-way leaves what it wrote.
-/

namespace ApiProxy

open Text

/-- What a run that generates has done. -/
structure GenerationSummary where
  moduleName : String
  /-- The output folder, as it is shown. -/
  output : String
  /-- How many controllers files were made for. -/
  controllers : Nat
  /-- How many files of data types were made. -/
  dataTypes : Nat
  written : List String
  skipped : List String
  /-- The path of the copy of the description, as it is shown. -/
  artifact : String
deriving DecidableEq, Repr

/-- What a run that removes has done. -/
structure RemovalSummary where
  /-- The output folder, as it is shown. -/
  output : String
  /-- Whether there was such a folder. -/
  removed : Bool
deriving DecidableEq, Repr

namespace RunOptions

/-- How files are arranged: by namespace in the default folder, flat in a given one. -/
def arrangement (o : RunOptions) : Arrangement :=
  if o.usesDefaultFolder then .namespaced else .flat

/-- Whether service interfaces and data types are generated. -/
def withContracts (o : RunOptions) : Bool := !o.withoutContracts

/-- What is generated in a run. -/
def generator (o : RunOptions) : GeneratorOptions := ⟨o.arrangement, o.withContracts⟩

/-- How files are written in a run. -/
def exporter (o : RunOptions) : ExportOptions := { logRoot? := some o.workDirectory }

end RunOptions

namespace Job

/-- Ask a source for a description and narrow it to a module. -/
def fetchModule (s : Source) (includeTypes : Bool) (moduleName : String) :
    Job ApiDescription := do
  let supply := s.supply (← get) includeTypes
  note supply.notes
  let m ← ofExcept supply.result
  note (m.selectionNotes moduleName)
  ofExcept (m.selectModule moduleName)

/-- Get the description that the proxies of a module are generated from. -/
def request (o : RunOptions) (s : Source) : Job ApiDescription := do
  note [LogOrigin.run.info ("Generating client proxies for module '" ++ o.moduleName ++ "' from " ++
    s.location)]
  fetchModule s o.withContracts o.moduleName

/-- Write the files of the controllers. -/
def emitControllers (o : RunOptions) (m : ApiDescription) : Job ExportReport := do
  note (m.controllerNotes o.generator)
  let files ← ofExcept (m.controllerFiles o.generator)
  exportFiles o.exporter o.outputRoot files

/-- Write the files of the data types; how many there are. -/
def emitDataTypes (o : RunOptions) (m : ApiDescription) : Job (Nat × ExportReport) := do
  note (DataType.notes m)
  let files ← ofExcept (m.dataTypeFiles o.generator)
  let report ← exportFiles o.exporter o.outputRoot files
  return (files.length, report)

/-- Generate the proxies of a module. -/
def generate (o : RunOptions) (s : Source) : Job GenerationSummary := do
  let m ← request o s
  enter .modelFetched
  let controllers := m.serviceControllers.length
  note [LogOrigin.run.debug "Selected service controllers"
    [("controllers", decimal controllers)]]
  enter .filtered
  let classes ← emitControllers o m
  enter .classesEmitted
  let (dataTypes, types) ←
    if o.withContracts then do
      let emitted ← emitDataTypes o m
      enter .dataTypesEmitted
      pure emitted
    else pure (0, .empty)
  let report := classes ++ types
  saveDescription o.artifactPath m
  enter .modelPersisted
  enter .done
  note [LogOrigin.run.info "Client proxies generated"
    [("written", decimal report.written.length), ("skipped", decimal report.skipped.length)]]
  return {
    moduleName := o.moduleName
    output := o.displayPath o.outputRoot
    controllers, dataTypes
    written := report.written
    skipped := report.skipped
    artifact := o.displayPath o.artifactPath }

/-- Remove the output folder. -/
def remove (o : RunOptions) : Job RemovalSummary := do
  enter .removalRequested
  let removed ← removeOutput o.outputRoot
  let output := o.displayPath o.outputRoot
  if removed then note [LogOrigin.run.info ("Delete " ++ output)]
  enter .done
  return { output, removed }

/-- Check the options of a run. -/
def check (o : RunOptions) : Job Unit := do
  let w ← get
  ofExcept (o.check w.tree)

end Job

end ApiProxy
