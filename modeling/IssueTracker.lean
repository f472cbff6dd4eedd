import IssueTracker.Main
import IssueTracker.Project
import IssueTracker.Proofs.Query.Gathering
import IssueTracker.Proofs.Query.Reading
import IssueTracker.Proofs.Query.Meaning
import IssueTracker.Proofs.Query.WellFormed
import IssueTracker.Proofs.Calendar.Iso
import IssueTracker.Proofs.Query.Token
import IssueTracker.Proofs.Query.Writing
import IssueTracker.Proofs.Calendar.Moment
import IssueTracker.Proofs.Store.Labels
import IssueTracker.Proofs.Store.Record
import IssueTracker.Proofs.Store.Evolution
import IssueTracker.Proofs.Store.History
import IssueTracker.Proofs.Json.Members
import IssueTracker.Proofs.Json.Storable
import IssueTracker.Proofs.Text.AnyText
import IssueTracker.Proofs.Text.Utf8
import IssueTracker.Proofs.Json.Number
import IssueTracker.Proofs.Json.RoundTrip
import IssueTracker.Proofs.Json.Writing
import IssueTracker.Proofs.Settings.RoundTrip
import IssueTracker.Proofs.Settings.SavedSearch
import IssueTracker.Proofs.Query.Acceptance
import IssueTracker.Proofs.Query.Execution
import IssueTracker.Proofs.Query.Rejection
import IssueTracker.Proofs.Terminal.Markup
import IssueTracker.Proofs.Command.Session
import IssueTracker.Proofs.Command.Rejection
import IssueTracker.Proofs.Query.Permutation
import IssueTracker.Proofs.Store.Closing
import IssueTracker.Proofs.Store.Readable
import IssueTracker.Proofs.Project
import IssueTracker.Proofs.Json.Stopping
import IssueTracker.Proofs.Settings.Fault
import IssueTracker.Proofs.Command.Settings
import IssueTracker.Proofs.Query.Limit
import IssueTracker.Proofs.Search.Listing
import IssueTracker.Proofs.Project.Reading
import IssueTracker.Proofs.Query.Ordering
import IssueTracker.Proofs.Query.Phrase
import IssueTracker.Proofs.Command.Parts
import IssueTracker.Proofs.Terminal.Line
import IssueTracker.Proofs.Command.Unsupported
import IssueTracker.Proofs.Command.Answer
import IssueTracker.Proofs.Command.Reached
import IssueTracker.Proofs.Report.Document
import IssueTracker.Proofs.Command.Output
import IssueTracker.Proofs.Query.Duality
import IssueTracker.Proofs.Query.Pattern
import IssueTracker.Proofs.Project.Storing
import IssueTracker.Proofs.Project.Updating
import IssueTracker.Proofs.Command.Absent
import IssueTracker.Proofs.Project.Editing
import IssueTracker.Proofs.Files.Tree
import IssueTracker.Proofs.Location
import IssueTracker.Proofs.Command.NewProject
import IssueTracker.Proofs.Command.SavedSearch
import IssueTracker.Proofs.Number.Truncation
import IssueTracker.Proofs.Query.Blame
import IssueTracker.Proofs.Settings.Limit
import IssueTracker.Proofs.Search.Labels
