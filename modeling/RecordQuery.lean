import RecordQuery.Filter.Basic
import RecordQuery.Filter.Ledger
import RecordQuery.Main
import RecordQuery.Query.Meaning
import RecordQuery.Value.Shown
import RecordQuery.Proofs.EqualRecords
import RecordQuery.Proofs.Filter.Determined
import RecordQuery.Proofs.Filter.Sealed
import RecordQuery.Proofs.Filter.Sharing
import RecordQuery.Proofs.Query.Grammar
import RecordQuery.Proofs.Ranking.Sorted
import RecordQuery.Proofs.Query.Reordering
import RecordQuery.Proofs.EqualSpecifications
import RecordQuery.Proofs.Filter.Calls
import RecordQuery.Proofs.Filter.Ledger
import RecordQuery.Proofs.Number.JsonText
import RecordQuery.Proofs.Json.Parsing
import RecordQuery.Proofs.Json.RoundTrip
import RecordQuery.Proofs.CommandLine.Records
import RecordQuery.Proofs.CommandLine.Run
import RecordQuery.Proofs.Value.Reading
import RecordQuery.Proofs.Value.Recorded
import RecordQuery.Proofs.CommandLine.Again
import RecordQuery.Proofs.DepthLimit
import RecordQuery.Proofs.Filter.Shorthand
import RecordQuery.Proofs.Query.Connectives
import RecordQuery.Proofs.Filter.Complement
import RecordQuery.Proofs.Levels
import RecordQuery.Proofs.Ranking.Flattened
import RecordQuery.Proofs.Ranking.Reversal
import RecordQuery.Proofs.Filter.Membership
import RecordQuery.Proofs.Number.Closest
import RecordQuery.Proofs.Filter.Comparison
import RecordQuery.Proofs.Number.Exact
import RecordQuery.Proofs.Value.Exact
import RecordQuery.Proofs.Number.Coercion
import RecordQuery.Proofs.Ranking.Caseless
import RecordQuery.Proofs.Ranking.LowercaseFirst
import RecordQuery.Proofs.Filter.Duality
import RecordQuery.Proofs.CommandLine.Lines
import RecordQuery.Proofs.Filter.Bits
import RecordQuery.Proofs.Pattern
import RecordQuery.Proofs.Ranking.Texts
import RecordQuery.Proofs.Text.Units
import RecordQuery.Proofs.Value.Access
