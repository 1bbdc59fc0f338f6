import BattleMaps.BattleMap
import BattleMaps.BlobFolder
import BattleMaps.Campaign.Bundled
import BattleMaps.Campaign.Catalog
import BattleMaps.Campaign.Format
import BattleMaps.Campaign.Reader
import BattleMaps.Clock
import BattleMaps.CommandLine.Help
import BattleMaps.CommandLine.Machine
import BattleMaps.CommandLine.Options
import BattleMaps.CommandLine.Program
import BattleMaps.Config
import BattleMaps.Decimal.Binary
import BattleMaps.Decimal.Fixed
import BattleMaps.Decimal.Reading
import BattleMaps.Decimal.Shortest
import BattleMaps.Document
import BattleMaps.Draft
import BattleMaps.Files.Path
import BattleMaps.Files.Tree
import BattleMaps.Generation
import BattleMaps.Grid
import BattleMaps.Json.Basic
import BattleMaps.Json.Lenient
import BattleMaps.Json.Reader
import BattleMaps.Json.Shown
import BattleMaps.Json.Writer
import BattleMaps.Main
import BattleMaps.Making
import BattleMaps.Outcome
import BattleMaps.PathPattern
import BattleMaps.Prompt.Instructions
import BattleMaps.Prompt.Request
import BattleMaps.Proofs.BlobFolder.Confinement
import BattleMaps.Proofs.BlobFolder.Places
import BattleMaps.Proofs.BlobFolder.RoundTrip
import BattleMaps.Proofs.Campaign.Catalogue
import BattleMaps.Proofs.Campaign.Faults
import BattleMaps.Proofs.Campaign.Forms
import BattleMaps.Proofs.Campaign.Satisfiable
import BattleMaps.Proofs.Decimal.Integers
import BattleMaps.Proofs.Decimal.Interval
import BattleMaps.Proofs.Decimal.Layout
import BattleMaps.Proofs.Decimal.Overflow
import BattleMaps.Proofs.Decimal.Packing
import BattleMaps.Proofs.Decimal.Rounding
import BattleMaps.Proofs.Decimal.Scientific
import BattleMaps.Proofs.Decimal.Shortest
import BattleMaps.Proofs.Files.Lookup
import BattleMaps.Proofs.Files.Paths
import BattleMaps.Proofs.Files.Storing
import BattleMaps.Proofs.Json.Agreement
import BattleMaps.Proofs.Json.Canonical
import BattleMaps.Proofs.Json.Characters
import BattleMaps.Proofs.Json.Limits
import BattleMaps.Proofs.Json.Members
import BattleMaps.Proofs.Json.Nesting
import BattleMaps.Proofs.Json.Numbers
import BattleMaps.Proofs.Json.Reading
import BattleMaps.Proofs.Json.Rearrangement
import BattleMaps.Proofs.Json.RoundTrip
import BattleMaps.Proofs.Json.Texts
import BattleMaps.Proofs.Json.Truncation
import BattleMaps.Proofs.Json.WholeNumbers
import BattleMaps.Proofs.Proposal.Acceptance
import BattleMaps.Proofs.Proposal.Answers
import BattleMaps.Proofs.Proposal.Blocks
import BattleMaps.Proofs.Proposal.Cells
import BattleMaps.Proofs.Proposal.DefaultIds
import BattleMaps.Proofs.Proposal.Fences
import BattleMaps.Proofs.Proposal.FloorVariants
import BattleMaps.Proofs.Proposal.Limits
import BattleMaps.Proofs.Proposal.Projection
import BattleMaps.Proofs.Proposal.Promises
import BattleMaps.Proofs.Proposal.Rectangles
import BattleMaps.Proofs.Proposal.Replies
import BattleMaps.Proofs.Proposal.Shapes
import BattleMaps.Proofs.Proposal.Spellings
import BattleMaps.Proofs.Proposal.Wrapping
import BattleMaps.Proofs.Regeneration.Attempts
import BattleMaps.Proofs.Regeneration.Charges
import BattleMaps.Proofs.Regeneration.Convergence
import BattleMaps.Proofs.Regeneration.Course
import BattleMaps.Proofs.Regeneration.Decisions
import BattleMaps.Proofs.Regeneration.Discipline
import BattleMaps.Proofs.Regeneration.Drafts
import BattleMaps.Proofs.Regeneration.Endings
import BattleMaps.Proofs.Regeneration.Fallback
import BattleMaps.Proofs.Regeneration.FirstAnswer
import BattleMaps.Proofs.Regeneration.Isolation
import BattleMaps.Proofs.Regeneration.Keeping
import BattleMaps.Proofs.Regeneration.Making
import BattleMaps.Proofs.Regeneration.Merging
import BattleMaps.Proofs.Regeneration.Overviews
import BattleMaps.Proofs.Regeneration.Permanence
import BattleMaps.Proofs.Regeneration.Premises
import BattleMaps.Proofs.Regeneration.Reruns
import BattleMaps.Proofs.Regeneration.Secrecy
import BattleMaps.Proofs.Regeneration.Settled
import BattleMaps.Proofs.Regeneration.Statuses
import BattleMaps.Proofs.Regeneration.Steadiness
import BattleMaps.Proofs.Regeneration.Steps
import BattleMaps.Proofs.Regeneration.StoredMaps
import BattleMaps.Proofs.Run.Coverage
import BattleMaps.Proofs.Run.Estimates
import BattleMaps.Proofs.Run.Order
import BattleMaps.Proofs.Run.Seeding
import BattleMaps.Proofs.Run.Spending
import BattleMaps.Proofs.Service.Contracts
import BattleMaps.Proofs.Store.Atomicity
import BattleMaps.Proofs.Store.Commuting
import BattleMaps.Proofs.Store.Saving
import BattleMaps.Proofs.Store.Survival
import BattleMaps.Proofs.Success
import BattleMaps.Proofs.Text.Digits
import BattleMaps.Proofs.Text.Percent
import BattleMaps.Proofs.Text.Trim
import BattleMaps.Proofs.Text.Utf8
import BattleMaps.Proposal
import BattleMaps.Regeneration
import BattleMaps.Region
import BattleMaps.Reply
import BattleMaps.Report
import BattleMaps.Report.Lines
import BattleMaps.Run
import BattleMaps.Selection
import BattleMaps.Service.Completer
import BattleMaps.Service.Http
import BattleMaps.Service.Painter
import BattleMaps.Service.Work
import BattleMaps.Settings
import BattleMaps.Spec
import BattleMaps.Store.Address
import BattleMaps.Store.Address.Basic
import BattleMaps.Store.Address.FileAddress
import BattleMaps.Store.Address.Options
import BattleMaps.Store.Address.Parts
import BattleMaps.Store.Archive
import BattleMaps.Store.Table
import BattleMaps.Store.UnitOfWork
import BattleMaps.Text.Base64
import BattleMaps.Text.Blank
import BattleMaps.Text.Digit
import BattleMaps.Text.Hex
import BattleMaps.Text.Host
import BattleMaps.Text.Lines
import BattleMaps.Text.Percent
import BattleMaps.Text.Printable
import BattleMaps.Text.Quoted
import BattleMaps.Text.Url
import BattleMaps.Text.Utf8
import BattleMaps.Text.Word
import BattleMaps.Violation
