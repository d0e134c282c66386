import GuardedSql.Change
import GuardedSql.Insert
import GuardedSql.PagedTable.Fetch
import GuardedSql.Proofs.Outcome
import GuardedSql.Proofs.ValueIndependence
import GuardedSql.Proofs.Rendering
import GuardedSql.Proofs.Results
import GuardedSql.Proofs.Alignment
import GuardedSql.Proofs.Acceptance
import GuardedSql.Proofs.Precedence
import GuardedSql.Proofs.Concatenation
import GuardedSql.Proofs.SharedCore
import GuardedSql.Proofs.AliasMarks
import GuardedSql.Proofs.Plans
import GuardedSql.Proofs.RequestIndependence
import GuardedSql.Proofs.Search
import GuardedSql.Proofs.Refusals
import GuardedSql.Proofs.Sessions
import GuardedSql.Proofs.PlanArguments
import GuardedSql.Proofs.Changes
import GuardedSql.Proofs.WrittenForms
import GuardedSql.Proofs.SkippedCriteria
import GuardedSql.Proofs.WhitelistSets
import GuardedSql.Proofs.Logs
import GuardedSql.Proofs.Equalities
import GuardedSql.Proofs.Insertions
import GuardedSql.Proofs.AppendedCriteria
import GuardedSql.Proofs.Constructions
import GuardedSql.Proofs.Pages
import GuardedSql.Proofs.SearchedColumns
import GuardedSql.Proofs.UnlistedColumns
import GuardedSql.Proofs.Patterns
import GuardedSql.Proofs.AuditTrail
import GuardedSql.Proofs.UnnamedColumns
import GuardedSql.Proofs.WhiteSpace
import GuardedSql.Proofs.Keywords
import GuardedSql.Proofs.Numerals
import GuardedSql.Proofs.WholeParts
import GuardedSql.Proofs.Totals
import GuardedSql.Proofs.GroupColumns
import GuardedSql.Proofs.SelectedExpressions
import GuardedSql.Proofs.RecordHistory
import GuardedSql.Proofs.Additions
import GuardedSql.Proofs.WhitelistHistory
