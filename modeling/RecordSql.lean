import RecordSql.Binding
import RecordSql.Calendar.Date
import RecordSql.Calendar.Fields
import RecordSql.Calendar.Iso
import RecordSql.Calendar.Names
import RecordSql.Calendar.Pattern
import RecordSql.Calendar.Pattern.Reading
import RecordSql.Calendar.Pattern.Rendering
import RecordSql.Calendar.Time
import RecordSql.Column
import RecordSql.Column.Json
import RecordSql.Database
import RecordSql.Database.Operation
import RecordSql.Database.Performance
import RecordSql.Decoding
import RecordSql.Dialect
import RecordSql.Dialect.Code
import RecordSql.Dialect.Literals
import RecordSql.Dialect.Reading
import RecordSql.Exchange
import RecordSql.Exchange.Transcript
import RecordSql.Failure
import RecordSql.Fault
import RecordSql.Filter
import RecordSql.Filter.Json
import RecordSql.Formats
import RecordSql.Formats.Wording
import RecordSql.Json
import RecordSql.Json.Reading
import RecordSql.Json.Shape
import RecordSql.Mutation
import RecordSql.Mutation.Reading
import RecordSql.Number.Double
import RecordSql.Number.Shortest
import RecordSql.Number.Text
import RecordSql.Number.Whole
import RecordSql.Predicate
import RecordSql.Predicate.Lexeme
import RecordSql.Predicate.Reading
import RecordSql.Proofs.Binding
import RecordSql.Proofs.Binding.Definite
import RecordSql.Proofs.Calendar.Exchange
import RecordSql.Proofs.Calendar.Fields
import RecordSql.Proofs.Calendar.Iso
import RecordSql.Proofs.Calendar.Numbers
import RecordSql.Proofs.Calendar.Rendering
import RecordSql.Proofs.Database.Agreement
import RecordSql.Proofs.Database.Confinement
import RecordSql.Proofs.Database.Definite
import RecordSql.Proofs.Database.DriverErrors
import RecordSql.Proofs.Database.Ending
import RecordSql.Proofs.Database.Performance
import RecordSql.Proofs.Database.Refusals
import RecordSql.Proofs.Database.Restriction
import RecordSql.Proofs.Database.Wording
import RecordSql.Proofs.Decoding
import RecordSql.Proofs.Decoding.Booleans
import RecordSql.Proofs.Dialect.Literals
import RecordSql.Proofs.Dialect.Names
import RecordSql.Proofs.Dialect.Reading
import RecordSql.Proofs.Exchange.Agreement
import RecordSql.Proofs.Exchange.Ending
import RecordSql.Proofs.Exchange.Sending
import RecordSql.Proofs.Exchange.Transcript
import RecordSql.Proofs.Filter.Building
import RecordSql.Proofs.Filter.Json
import RecordSql.Proofs.Formats
import RecordSql.Proofs.Formats.Clock
import RecordSql.Proofs.Formats.Exchange
import RecordSql.Proofs.Formats.Rewriting
import RecordSql.Proofs.Formats.Unnumbered
import RecordSql.Proofs.Formats.Wording
import RecordSql.Proofs.Formats.Words
import RecordSql.Proofs.Json.Numbers
import RecordSql.Proofs.Json.Reading
import RecordSql.Proofs.Json.Strings
import RecordSql.Proofs.Keys
import RecordSql.Proofs.Keys.Insertion
import RecordSql.Proofs.Mentions
import RecordSql.Proofs.Mutation
import RecordSql.Proofs.Mutation.Insert
import RecordSql.Proofs.Mutation.Update
import RecordSql.Proofs.Number.Decimal
import RecordSql.Proofs.Number.Numerals
import RecordSql.Proofs.Number.Rounding
import RecordSql.Proofs.Number.Whole
import RecordSql.Proofs.Outcome
import RecordSql.Proofs.Outcome.Agreement
import RecordSql.Proofs.Predicate.Acceptance
import RecordSql.Proofs.Predicate.Clauses
import RecordSql.Proofs.Predicate.Confinement
import RecordSql.Proofs.Predicate.Conjunction
import RecordSql.Proofs.Predicate.Definite
import RecordSql.Proofs.Predicate.Elements
import RecordSql.Proofs.Predicate.Exchange
import RecordSql.Proofs.Predicate.Form
import RecordSql.Proofs.Predicate.Groups
import RecordSql.Proofs.Predicate.KeyClause
import RecordSql.Proofs.Predicate.Keys
import RecordSql.Proofs.Predicate.Lexeme
import RecordSql.Proofs.Predicate.Naming
import RecordSql.Proofs.Predicate.Numbers
import RecordSql.Proofs.Predicate.Operator
import RecordSql.Proofs.Predicate.Reading
import RecordSql.Proofs.Predicate.Restriction
import RecordSql.Proofs.Predicate.Secrecy
import RecordSql.Proofs.Predicate.Splitting
import RecordSql.Proofs.Predicate.Substitution
import RecordSql.Proofs.Query
import RecordSql.Proofs.Query.Pagination
import RecordSql.Proofs.Record
import RecordSql.Proofs.Registry.ComputedOnce
import RecordSql.Proofs.Registry.Failures
import RecordSql.Proofs.Registry.Gathering
import RecordSql.Proofs.Registry.Memo
import RecordSql.Proofs.Registry.Slots
import RecordSql.Proofs.Scripted.Describing
import RecordSql.Proofs.Scripted.Memory
import RecordSql.Proofs.Scripted.Wording
import RecordSql.Proofs.Settings.Formats
import RecordSql.Proofs.Settings.Layers
import RecordSql.Proofs.Statement.Composition
import RecordSql.Proofs.Statement.Construction
import RecordSql.Proofs.Statement.Form
import RecordSql.Proofs.Statement.Literal
import RecordSql.Proofs.Statement.NormalForm
import RecordSql.Proofs.Statement.Parts
import RecordSql.Proofs.Statement.Placeholders
import RecordSql.Proofs.TableHandle.Definite
import RecordSql.Proofs.TableHandle.Ending
import RecordSql.Proofs.TableHandle.Existence
import RecordSql.Proofs.TableHandle.Insert
import RecordSql.Proofs.TableHandle.Reading
import RecordSql.Proofs.TableHandle.Restriction
import RecordSql.Proofs.TableHandle.RowSet
import RecordSql.Proofs.TableHandle.Update
import RecordSql.Proofs.TableHandle.Upsert
import RecordSql.Proofs.Text
import RecordSql.Proofs.Text.Words
import RecordSql.Proofs.Value.Json
import RecordSql.Query
import RecordSql.Query.Reading
import RecordSql.Record
import RecordSql.Registry
import RecordSql.Registry.Describing
import RecordSql.Registry.Gathering
import RecordSql.Scripted.Connection
import RecordSql.Scripted.Describing
import RecordSql.Scripted.Session
import RecordSql.Settings
import RecordSql.Settings.Json
import RecordSql.Settings.Load
import RecordSql.Statement
import RecordSql.TableHandle
import RecordSql.TableHandle.Operation
import RecordSql.TableHandle.Reading
import RecordSql.TableHandle.Writing
import RecordSql.Text.Blank
import RecordSql.Text.Hex
import RecordSql.Text.Letters
import RecordSql.Text.Lowercase
import RecordSql.Text.Lowercase.Table
import RecordSql.Text.Utf8
import RecordSql.Toml
import RecordSql.Toml.Number
import RecordSql.Toml.Reading
import RecordSql.Toml.Text
import RecordSql.Value
import RecordSql.Value.Json
