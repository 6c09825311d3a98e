import TreeReport.CommandLine.Run
import TreeReport.Main
import TreeReport.Proofs.Stripping
import TreeReport.Proofs.OneLine
import TreeReport.Proofs.StyledReport
import TreeReport.Proofs.ReportLines
import TreeReport.Proofs.SiblingLayout
import TreeReport.Proofs.FloatText
import TreeReport.Proofs.CompactReading
import TreeReport.Proofs.NormalForm
import TreeReport.Proofs.CanonicalValues
import TreeReport.Proofs.UnambiguousReport
import TreeReport.Proofs.LineCount
import TreeReport.Proofs.RecordDelivery
import TreeReport.Proofs.RangeSuffixes
import TreeReport.Proofs.Encoding
import TreeReport.Proofs.ContainerForms
import TreeReport.Proofs.EncodableReports
import TreeReport.Proofs.NativeValues
import TreeReport.Proofs.SourceRuns
import TreeReport.Proofs.QuietRuns
import TreeReport.Proofs.CombinedRuns
import TreeReport.Proofs.ArgumentWords
import TreeReport.Proofs.NativeRuns
import TreeReport.Proofs.LongIntegers
import TreeReport.Proofs.RunEndings
import TreeReport.Proofs.EntryPoints
import TreeReport.Proofs.StrictOptions
import TreeReport.Proofs.NodeAttributes
import TreeReport.Proofs.AlikeContainers
import TreeReport.Proofs.OptionAliases
import TreeReport.Proofs.FileBackups
import TreeReport.Proofs.ForcedConfiguration
import TreeReport.Proofs.RetainedRecords
import TreeReport.Proofs.ArgumentOrder
import TreeReport.Proofs.RangeText
import TreeReport.Proofs.StyleSequences
import TreeReport.Proofs.StylePairs
import TreeReport.Proofs.Literals
import TreeReport.Proofs.UnseenChanges
import TreeReport.Proofs.SetOrder
import TreeReport.Proofs.MappingMembers
import TreeReport.Proofs.TokenBoundaries
import TreeReport.Proofs.CallRecords
