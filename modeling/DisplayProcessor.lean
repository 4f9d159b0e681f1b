import DisplayProcessor.Assembly
import DisplayProcessor.BudgetedPool
import DisplayProcessor.Main
import DisplayProcessor.Proofs.PoolAllocation
import DisplayProcessor.Proofs.Session
import DisplayProcessor.Proofs.CommandCases
import DisplayProcessor.Proofs.HandleOwnership
import DisplayProcessor.Proofs.FrameTextures
import DisplayProcessor.Proofs.Uncached
import DisplayProcessor.Proofs.CacheTransparency
import DisplayProcessor.Proofs.SwizzleIndependence
import DisplayProcessor.Proofs.BlockContents
import DisplayProcessor.Proofs.TextureLoading
import DisplayProcessor.Proofs.LoadHistory
import DisplayProcessor.Proofs.LoadedRows
import DisplayProcessor.Proofs.RowByRow
import DisplayProcessor.Proofs.Failures
import DisplayProcessor.Proofs.StrictFormats
import DisplayProcessor.Proofs.UnappliedRows
import DisplayProcessor.Proofs.TextureIdentity
import DisplayProcessor.Proofs.BatchBoundaries
import DisplayProcessor.Proofs.SetupOrder
import DisplayProcessor.Proofs.FrameContents
import DisplayProcessor.Proofs.LatchedState
import DisplayProcessor.Proofs.HandOff
import DisplayProcessor.Proofs.Reset
import DisplayProcessor.Proofs.OperandRanges
import DisplayProcessor.Proofs.CheckedExecution
import DisplayProcessor.Proofs.CheckedArithmetic
import DisplayProcessor.Proofs.CheckedTextures
import DisplayProcessor.Proofs.RowErasure
import DisplayProcessor.Proofs.BulkReads
import DisplayProcessor.Proofs.QuadWordContents
import DisplayProcessor.Proofs.SplitLoads
import DisplayProcessor.Proofs.JsonText
import DisplayProcessor.Proofs.DumpText
import DisplayProcessor.Proofs.OperandWords
import DisplayProcessor.Proofs.TriangleRows
import DisplayProcessor.Proofs.SetupRows
import DisplayProcessor.Proofs.DecodedImages
import DisplayProcessor.Proofs.BatchRows
import DisplayProcessor.Proofs.MemoryWrites
import DisplayProcessor.Proofs.PoolHistory
import DisplayProcessor.Proofs.DecimalDigits
import DisplayProcessor.Proofs.TomlLines
import DisplayProcessor.Proofs.SettingsText
