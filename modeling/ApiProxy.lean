import ApiProxy.Main
import ApiProxy.Proofs.Text.Utf8
import ApiProxy.Proofs.TypeRef.RoundTrip
import ApiProxy.Proofs.Description.RoundTrip
import ApiProxy.Proofs.Description.Narrowing
import ApiProxy.Proofs.Generation.Paths
import ApiProxy.Proofs.Generation.Folders
import ApiProxy.Proofs.Generation.Proxies
import ApiProxy.Proofs.Generation.Imports
import ApiProxy.Proofs.Generation.Arrangements
import ApiProxy.Proofs.FileTree.Lasting
import ApiProxy.Proofs.FileTree.Resemblance
import ApiProxy.Proofs.Export.Confinement
import ApiProxy.Proofs.Export.Interruption
import ApiProxy.Proofs.Export.Settled
import ApiProxy.Proofs.Export.Surroundings
import ApiProxy.Proofs.Export.Repetition
import ApiProxy.Proofs.Export.Contents
import ApiProxy.Proofs.Export.Effect
import ApiProxy.Proofs.Export.Modes
import ApiProxy.Proofs.Run.Stubs
import ApiProxy.Proofs.Run.Removal
import ApiProxy.Proofs.Run.Course
import ApiProxy.Proofs.Run.Failures
import ApiProxy.Proofs.Run.Outcome
import ApiProxy.Proofs.Run.Regeneration
import ApiProxy.Proofs.Run.SavedDescription
import ApiProxy.Proofs.Run.Artifact
import ApiProxy.Proofs.Run.Sources
import ApiProxy.Proofs.Run.Renewal
import ApiProxy.Proofs.Run.ExitCodes
import ApiProxy.Proofs.Run.Stages
import ApiProxy.Proofs.Run.Phases
import ApiProxy.Proofs.Text.Dotted
import ApiProxy.Proofs.TypeRef.Composition
import ApiProxy.Proofs.TypeRef.DisplayName
import ApiProxy.Proofs.TypeRef.Neatness
import ApiProxy.Proofs.TypeRef.Settling
import ApiProxy.Proofs.TypeRef.BuiltIn
import ApiProxy.Proofs.TypeRef.Instantiation
import ApiProxy.Proofs.Generation.DataTypes
import ApiProxy.Proofs.Generation.DataTypeFiles
import ApiProxy.Proofs.Generation.Templates
import ApiProxy.Proofs.Generation.Methods
import ApiProxy.Proofs.Text.Indentation
import ApiProxy.Proofs.Generation.Results
import ApiProxy.Proofs.Generation.ServiceNames
import ApiProxy.Proofs.Generation.ImportHistory
import ApiProxy.Proofs.TypeRef.Positions
import ApiProxy.Proofs.Run.ShownPaths
