import SearchQuery.Main
import SearchQuery.Session
import SearchQuery.Proofs.LooseOperators
import SearchQuery.Proofs.BoolQueries
import SearchQuery.Proofs.Writing
import SearchQuery.Proofs.NeutralForms
import SearchQuery.Proofs.SideBySide
import SearchQuery.Proofs.Spacing
import SearchQuery.Proofs.LogRecords
import SearchQuery.Proofs.Partition
import SearchQuery.Proofs.Decoding
import SearchQuery.Proofs.PrintedBodies
import SearchQuery.Proofs.Outcomes
import SearchQuery.Proofs.LogRuns
import SearchQuery.Proofs.CommandReports
import SearchQuery.Proofs.OverlayLaws
import SearchQuery.Proofs.ReportReading
import SearchQuery.Proofs.DocumentRoots
import SearchQuery.Proofs.Fragments
import SearchQuery.Proofs.HandmadeTrees
