import JsonSql.Proofs.Alignment
import JsonSql.Proofs.Unrestricted
import JsonSql.Session
import JsonSql.Proofs.Unambiguity
import JsonSql.Proofs.ColumnNames
import JsonSql.Proofs.Explicit
import JsonSql.Proofs.Refusals
import JsonSql.Proofs.BulkOutcomes
import JsonSql.Proofs.ClauseParts
import JsonSql.Proofs.Quoting
import JsonSql.Proofs.SingleRecords
import JsonSql.Proofs.SettingsSpelling
import JsonSql.Proofs.ColumnPattern
import JsonSql.Proofs.Conjunction
import JsonSql.Proofs.Disjunction
import JsonSql.Proofs.HollowParts
import JsonSql.Proofs.ListsAsObjects
import JsonSql.Proofs.LetterCase
import JsonSql.Proofs.Rearrangement
import JsonSql.Proofs.RowViews
import JsonSql.Proofs.UpperCase
import JsonSql.Proofs.Words
import JsonSql.Proofs.RawConditions
import JsonSql.Proofs.SortSpelling
import JsonSql.Proofs.SettingsRestatement
import JsonSql.Proofs.ConnectionKeys
import JsonSql.Proofs.Resolution
import JsonSql.Proofs.CountAnswers
import JsonSql.Proofs.Traces
import JsonSql.Proofs.Logging
import JsonSql.Proofs.Thresholds
