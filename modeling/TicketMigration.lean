import TicketMigration.Main
import TicketMigration.Value.Printer
import TicketMigration.Proofs.Course
import TicketMigration.Proofs.Lookup
import TicketMigration.Proofs.Posting
import TicketMigration.Proofs.WriteOrder
import TicketMigration.Proofs.BlockLines
import TicketMigration.Proofs.FenceWalk
import TicketMigration.Proofs.FenceSearch
import TicketMigration.Proofs.FenceAgreement
import TicketMigration.Proofs.Bars
import TicketMigration.Proofs.Composition
import TicketMigration.Proofs.CodeMarks
import TicketMigration.Proofs.CodeStructure
import TicketMigration.Proofs.CodePassage
import TicketMigration.Proofs.Rosters
import TicketMigration.Proofs.Paging
import TicketMigration.Proofs.NewestFirst
import TicketMigration.Proofs.Snapshot
import TicketMigration.Proofs.Success
import TicketMigration.Proofs.Records
import TicketMigration.Proofs.Granted
import TicketMigration.Proofs.Faithfulness
import TicketMigration.Proofs.History
import TicketMigration.Proofs.KeptAnswers
import TicketMigration.Proofs.LookupFrame
import TicketMigration.Proofs.Reach
import TicketMigration.Proofs.Tallies
import TicketMigration.Proofs.Rehearsal
import TicketMigration.Proofs.Impersonation
import TicketMigration.Proofs.Enactment
import TicketMigration.Proofs.UnmappedSummary
import TicketMigration.Proofs.Endings
import TicketMigration.Proofs.FileLayout
import TicketMigration.Proofs.SettingsFaults
import TicketMigration.Proofs.QuotedText
import TicketMigration.Proofs.WrittenDictionary
import TicketMigration.Proofs.WrittenFile
import TicketMigration.Proofs.WrittenNumber
import TicketMigration.Proofs.WrittenSettings
import TicketMigration.Proofs.Parts
import TicketMigration.Proofs.Blankness
import TicketMigration.Proofs.BlankNotes
import TicketMigration.Proofs.PlainText
import TicketMigration.Proofs.GivenOptions
import TicketMigration.Proofs.Precedence
import TicketMigration.Proofs.Cuts
import TicketMigration.Proofs.EmphasisRules
import TicketMigration.Proofs.LinkTargets
import TicketMigration.Proofs.ImageFiles
import TicketMigration.Proofs.WithinLines
import TicketMigration.Proofs.ReferenceScan
import TicketMigration.Proofs.BlockEnds
import TicketMigration.Proofs.TableCells
import TicketMigration.Proofs.SpannedText
import TicketMigration.Proofs.BlockSpans
import TicketMigration.Proofs.RowSpans
import TicketMigration.Proofs.AddedCharacters
import TicketMigration.Proofs.SpanContent
import TicketMigration.Proofs.SeparatorRow
import TicketMigration.Proofs.TableRuns
import TicketMigration.Proofs.BlockSearch
import TicketMigration.Proofs.BlockForms
import TicketMigration.Proofs.MarkedWords
import TicketMigration.Proofs.QueryTerms
import TicketMigration.Proofs.QueriesSent
import TicketMigration.Proofs.QueryCaps
import TicketMigration.Proofs.PercentCoding
import TicketMigration.Proofs.Credentials
import TicketMigration.Proofs.UsableMappings
import TicketMigration.Proofs.FixedDigits
import TicketMigration.Proofs.Calendar
import TicketMigration.Proofs.WireTimes
import TicketMigration.Proofs.MappingUpdates
import TicketMigration.Proofs.MappingText
import TicketMigration.Proofs.ValidSettings
import TicketMigration.Proofs.LabelParts
