import NewsSearch.Main
import NewsSearch.Proofs.Json.Budget
import NewsSearch.Proofs.Json.Stray
import NewsSearch.Proofs.Json.Truncation
import NewsSearch.Proofs.Json.Progress
import NewsSearch.Proofs.Client.Request
import NewsSearch.Proofs.Filter.Timespan
import NewsSearch.Proofs.Filter.Validation
import NewsSearch.Proofs.Calendar.Timestamp
import NewsSearch.Proofs.Calendar.Layouts
import NewsSearch.Proofs.Timeline.Pivot
import NewsSearch.Proofs.CommandLine.Filters
import NewsSearch.Proofs.CommandLine.Run
import NewsSearch.Proofs.Decimal.Finite
import NewsSearch.Proofs.Json.Regular
import NewsSearch.Proofs.Decode.Fields
import NewsSearch.Proofs.Decimal.Numeral
import NewsSearch.Proofs.Json.Nulls
import NewsSearch.Proofs.Timeline.Shape
import NewsSearch.Proofs.Timeline.Columns
import NewsSearch.Proofs.Json.Grammar
import NewsSearch.Proofs.Decode.Skipped
import NewsSearch.Proofs.Decode.Settled
import NewsSearch.Proofs.Decode.Objects
import NewsSearch.Proofs.Filter.Members
import NewsSearch.Proofs.Client.LastHour
import NewsSearch.Proofs.Query.Keywords
import NewsSearch.Proofs.Article
import NewsSearch.Proofs.Client.Config
