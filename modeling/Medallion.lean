import Medallion.Main
import Medallion.Proofs.Artifact.RoundTrip
import Medallion.Proofs.Artifact.SourceKinds
import Medallion.Proofs.Artifact.StableOrder
import Medallion.Proofs.Cleansing
import Medallion.Proofs.Compilation.AddedColumns
import Medallion.Proofs.Compilation.Collisions
import Medallion.Proofs.Compilation.ColumnNames
import Medallion.Proofs.Compilation.Decision
import Medallion.Proofs.Compilation.Echo
import Medallion.Proofs.Compilation.EchoContents
import Medallion.Proofs.Compilation.Failure
import Medallion.Proofs.Compilation.History
import Medallion.Proofs.Compilation.Isolation
import Medallion.Proofs.Compilation.LinkageContents
import Medallion.Proofs.Compilation.ListedTables
import Medallion.Proofs.Compilation.MappingContents
import Medallion.Proofs.Compilation.MergeKeys
import Medallion.Proofs.Compilation.RecordNumbers
import Medallion.Proofs.Compilation.Rerun
import Medallion.Proofs.Compilation.SchemaContents
import Medallion.Proofs.Compilation.Targets
import Medallion.Proofs.Compilation.TypeChain
import Medallion.Proofs.Compilation.Types
import Medallion.Proofs.Compilation.Validated
import Medallion.Proofs.Json.Values
import Medallion.Proofs.Sheet.Columns
import Medallion.Proofs.Sheet.Spelling
import Medallion.Proofs.Store.SavedPrefix
import Medallion.Proofs.TypeNames
