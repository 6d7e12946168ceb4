import LoadWatch.Binary64.Bits
import LoadWatch.HostInfo
import LoadWatch.Main
import LoadWatch.Proofs.Differences
import LoadWatch.Proofs.LoopEndings
import LoadWatch.Proofs.Selection
import LoadWatch.Proofs.Accumulation
import LoadWatch.Proofs.Diagnostics
import LoadWatch.Proofs.GridRows
import LoadWatch.Proofs.Refusals
import LoadWatch.Proofs.ReportGrids
import LoadWatch.Proofs.LabelledLines
import LoadWatch.Proofs.CellSafety
import LoadWatch.Proofs.ReportLines
import LoadWatch.Proofs.ColumnsFit
import LoadWatch.Proofs.JoinedLoops
import LoadWatch.Proofs.LineOrigins
import LoadWatch.Proofs.CommandLineRoundTrip
import LoadWatch.Proofs.PersistentSettings
import LoadWatch.Proofs.EntryOrder
import LoadWatch.Proofs.ExactRanking
import LoadWatch.Proofs.LockReplies
import LoadWatch.Proofs.CursorReading
import LoadWatch.Proofs.NamespaceReplies
import LoadWatch.Proofs.MostLocked
import LoadWatch.Proofs.RatioCells
import LoadWatch.Proofs.RateAccuracy
import LoadWatch.Proofs.ShownColumns
import LoadWatch.Proofs.PathCells
import LoadWatch.Proofs.DeclaredMembers
import LoadWatch.Proofs.RouterNames
import LoadWatch.Proofs.GridLayout
import LoadWatch.Proofs.ElapsedTime
import LoadWatch.Proofs.UnitAmounts
import LoadWatch.Proofs.ServerReplies
import LoadWatch.Proofs.PrintedNumbers
import LoadWatch.Proofs.CommaLists
