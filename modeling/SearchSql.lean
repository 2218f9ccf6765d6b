import SearchSql.Text.Blank
import SearchSql.Text.Split
import SearchSql.Text.Inspect
import SearchSql.Number.Binary64
import SearchSql.Number.Decimal
import SearchSql.Number.Leading
import SearchSql.Keyed
import SearchSql.Document
import SearchSql.Value
import SearchSql.Error
import SearchSql.AttrType
import SearchSql.FullText
import SearchSql.Template
import SearchSql.Condition
import SearchSql.Condition.Request
import SearchSql.Quoter.Settings
import SearchSql.Clause
import SearchSql.Statement
import SearchSql.Value.Convert
import SearchSql.Proofs.Filling
import SearchSql.Proofs.Numeral
import SearchSql.Proofs.Skeleton
import SearchSql.Proofs.TextVariant
import SearchSql.Proofs.Injection
import SearchSql.Proofs.Reading.Literal
import SearchSql.Proofs.MatchText
import SearchSql.Proofs.Reading.Value
import SearchSql.Proofs.Reading.Clause
import SearchSql.Proofs.Reading.Coercion
import SearchSql.Proofs.Reading.Part
import SearchSql.Proofs.Accepted
import SearchSql.Proofs.Insert.Calls
import SearchSql.Proofs.Reading.Insert
import SearchSql.Proofs.Brought
import SearchSql.Proofs.Structured
import SearchSql.Proofs.Reading.Select
import SearchSql.Proofs.Reading.Change
import SearchSql.Proofs.BlankClause
import SearchSql.Proofs.Determined
import SearchSql.Proofs.FirstError
import SearchSql.Proofs.DirectForm
import SearchSql.Proofs.WellFormed
import SearchSql.Proofs.Rearranged
import SearchSql.Proofs.Entries
import SearchSql.Proofs.Restated
import SearchSql.Proofs.Insert.Refused
import SearchSql.Proofs.Insert.Alignment
import SearchSql.Proofs.LeadingNumber
import SearchSql.Proofs.Rounding
import SearchSql.Proofs.IntegerText
import SearchSql.Proofs.IntegerRange
import SearchSql.Proofs.RoundTrip
import SearchSql.Proofs.Insert.StoredDocument
import SearchSql.Proofs.Reading.NameList
import SearchSql.Proofs.Insert.HintOrder
import SearchSql.Proofs.OrderedOptions
import SearchSql.Proofs.Equality
import SearchSql.Proofs.Interleaving
import SearchSql.Proofs.DistinctKeys
