/-!
# Stages of a run

A run that generates goes through its stages in a fixed order, and without contracts skips the
one of the data types; a run that removes has stages of its own. Both start at `start` and,
unless something stops them, end at `done`.
-/

namespace ApiProxy

/-- How far a run has come. -/
inductive Stage where
  | start
  /-- The description is there and narrowed to the module. -/
  | modelFetched
  /-- The controllers of services are known. -/
  | filtered
  /-- The files of the controllers are written. -/
  | classesEmitted
  /-- The files of the data types are written. -/
  | dataTypesEmitted
  /-- The copy of the description is saved. -/
  | modelPersisted
  /-- The output folder is to be removed. -/
  | removalRequested
  | done
deriving DecidableEq, Repr

namespace Stage

/-- The name of a stage in the log. -/
def name : Stage → String
  | start => "Start"
  | modelFetched => "ModelFetched"
  | filtered => "Filtered"
  | classesEmitted => "ClassesEmitted"
  | dataTypesEmitted => "DtoEmitted"
  | modelPersisted => "ModelPersisted"
  | removalRequested => "RemovalRequested"
  | done => "Done"

/-- The stages behind the start of a run that generates. -/
def generation (withContracts : Bool) : List Stage :=
  [modelFetched, filtered, classesEmitted] ++ (if withContracts then [dataTypesEmitted] else []) ++
    [modelPersisted, done]

/-- The stages behind the start of a run that removes. -/
def removal : List Stage := [removalRequested, done]

end Stage

end ApiProxy
