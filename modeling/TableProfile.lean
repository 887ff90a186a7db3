import TableProfile.CommandLine.Command
import TableProfile.Main
import TableProfile.Scan.Interleaving
import TableProfile.Source.Shelf
import TableProfile.Proofs.TallySheet
import TableProfile.Proofs.Tokens
import TableProfile.Proofs.ColumnRun
import TableProfile.Proofs.FreeText
import TableProfile.Proofs.ReportedValues
import TableProfile.Proofs.Draws
import TableProfile.Proofs.Endings
import TableProfile.Proofs.Reachable
import TableProfile.Proofs.Ledger
import TableProfile.Proofs.Termination
import TableProfile.Proofs.Outcomes
import TableProfile.Proofs.Completion
import TableProfile.Proofs.Cancellation
import TableProfile.Proofs.SortedSample
import TableProfile.Proofs.InPlace
import TableProfile.Proofs.ReservoirRun
import TableProfile.Proofs.UniformSample
import TableProfile.Proofs.NumberText
import TableProfile.Proofs.QuotedText
import TableProfile.Proofs.WrittenText
import TableProfile.Proofs.Codecs
import TableProfile.Proofs.ReportText
import TableProfile.Proofs.Rounding
import TableProfile.Proofs.Doubles
import TableProfile.Proofs.DoubleArithmetic
import TableProfile.Proofs.FiniteSummaries
import TableProfile.Proofs.ReportedColumns
import TableProfile.Proofs.ShortestDigits
import TableProfile.Proofs.LargestDoubles
import TableProfile.Proofs.FloatText
import TableProfile.Proofs.ReadableReports
import TableProfile.Proofs.Advances
import TableProfile.Proofs.LeftOut
import TableProfile.Proofs.RecordBounds
import TableProfile.Proofs.RowStreams
import TableProfile.Proofs.RowCount
import TableProfile.Proofs.EncodedText
import TableProfile.Proofs.TableText
import TableProfile.Proofs.EncodedOrder
import TableProfile.Proofs.Ranking
import TableProfile.Proofs.ReportedCounts
import TableProfile.Proofs.WholeNumbers
import TableProfile.Proofs.DoubleValues
import TableProfile.Proofs.InferredTypes
import TableProfile.Proofs.NumberSummaries
import TableProfile.Proofs.DatesAndNumbers
import TableProfile.Proofs.TextDecision
import TableProfile.Proofs.TypeChanges
import TableProfile.Proofs.BoundedMemory
import TableProfile.Proofs.ColumnByColumn
import TableProfile.Proofs.BlankCells
import TableProfile.Proofs.RowFailures
import TableProfile.Proofs.Histories
import TableProfile.Proofs.Unobstructed
import TableProfile.Proofs.PromptStop
import TableProfile.Proofs.StoppedWorkers
import TableProfile.Proofs.Shares
import TableProfile.Proofs.DistinctValues
import TableProfile.Proofs.SameReports
import TableProfile.Proofs.Trims
import TableProfile.Proofs.Bookkeeping
import TableProfile.Proofs.RowLimits
import TableProfile.Proofs.Quartiles
import TableProfile.Proofs.QuotedNames
import TableProfile.Proofs.InsertionOrder
import TableProfile.Proofs.PartialSettings
import TableProfile.Proofs.WrittenFiles
import TableProfile.Proofs.ScanCommands
