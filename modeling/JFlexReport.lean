import JFlexReport.Main
import JFlexReport.Proofs.CapturedLines
import JFlexReport.Proofs.ClassifyCommand
import JFlexReport.Proofs.Cut
import JFlexReport.Proofs.Growth
import JFlexReport.Proofs.JsonReader
import JFlexReport.Proofs.Places
import JFlexReport.Proofs.Printing
import JFlexReport.Proofs.ReportContent
import JFlexReport.Proofs.JsonText
import JFlexReport.Proofs.LineEndings
import JFlexReport.Proofs.MachineReport
import JFlexReport.Proofs.Accumulation
import JFlexReport.Proofs.Chatter
import JFlexReport.Proofs.Decoration
import JFlexReport.Proofs.Arguments
import JFlexReport.Proofs.Verbosity
import JFlexReport.Proofs.SettingsFile
import JFlexReport.Proofs.CheckConfigCommand
import JFlexReport.Proofs.WellFormed
import JFlexReport.Proofs.LineNumber
import JFlexReport.Proofs.BlockRecords
import JFlexReport.Proofs.FileCreation
import JFlexReport.Proofs.SettingsCheck
import JFlexReport.Proofs.SkeletonOption
import JFlexReport.Proofs.Turns
import JFlexReport.Proofs.Moves
import JFlexReport.Proofs.Ancestors
import JFlexReport.Proofs.FileAddition
import JFlexReport.Proofs.SettingsSearch
import JFlexReport.Proofs.DocumentEntries
import JFlexReport.Proofs.DocumentText
import JFlexReport.Proofs.SettingsDocument
