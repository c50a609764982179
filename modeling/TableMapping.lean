import TableMapping.Calendar.Date
import TableMapping.Calendar.DateTime
import TableMapping.Calendar.OffsetDateTime
import TableMapping.Calendar.Reader
import TableMapping.Calendar.TimeOfDay
import TableMapping.Check
import TableMapping.Dialect.Basic
import TableMapping.Dialect.Identifier
import TableMapping.Error
import TableMapping.Execution
import TableMapping.Proofs.Agreement
import TableMapping.Proofs.Calendar.Instant
import TableMapping.Proofs.Calendar.Order
import TableMapping.Proofs.Calendar.Reading
import TableMapping.Proofs.Calendar.Texts
import TableMapping.Proofs.Database
import TableMapping.Proofs.Dialect.Identifier
import TableMapping.Proofs.Execution
import TableMapping.Proofs.FirstItem
import TableMapping.Proofs.Formula
import TableMapping.Proofs.Reading.Assignments
import TableMapping.Proofs.Reading.Condition
import TableMapping.Proofs.Reading.Create
import TableMapping.Proofs.Reading.Grammar
import TableMapping.Proofs.Reading.Identifier
import TableMapping.Proofs.Reading.Insert
import TableMapping.Proofs.Reading.Lexeme
import TableMapping.Proofs.Reading.Query
import TableMapping.Proofs.Reading.Scan
import TableMapping.Proofs.Reading.SelectList
import TableMapping.Proofs.Reading.Sign
import TableMapping.Proofs.Reading.Spelling
import TableMapping.Proofs.Reading.Unambiguous
import TableMapping.Proofs.Request.Absent
import TableMapping.Proofs.Request.Alike
import TableMapping.Proofs.Request.Calls
import TableMapping.Proofs.Request.ConstraintNames
import TableMapping.Proofs.Request.Creation
import TableMapping.Proofs.Request.Fetching
import TableMapping.Proofs.Request.Filter
import TableMapping.Proofs.Request.FirstError
import TableMapping.Proofs.Request.Grouping
import TableMapping.Proofs.Request.Identifiers
import TableMapping.Proofs.Request.Insertion
import TableMapping.Proofs.Request.Joining
import TableMapping.Proofs.Request.Mentioned
import TableMapping.Proofs.Request.Modification
import TableMapping.Proofs.Request.Obstacles
import TableMapping.Proofs.Request.Overwriting
import TableMapping.Proofs.Request.Pattern
import TableMapping.Proofs.Request.Present
import TableMapping.Proofs.Request.ReferencedKeys
import TableMapping.Proofs.Request.Refusal
import TableMapping.Proofs.Request.Rows
import TableMapping.Proofs.Request.Scope
import TableMapping.Proofs.Request.Selection
import TableMapping.Proofs.Request.WellScoped
import TableMapping.Proofs.Request.Written
import TableMapping.Proofs.Row
import TableMapping.Proofs.Schema.Acceptance
import TableMapping.Proofs.Schema.Built
import TableMapping.Proofs.Schema.Declared
import TableMapping.Proofs.Schema.Draft
import TableMapping.Proofs.Schema.Order
import TableMapping.Proofs.Schema.Valid
import TableMapping.Proofs.Statement.Alike
import TableMapping.Proofs.Statement.Faults
import TableMapping.Proofs.Statement.Filled
import TableMapping.Proofs.Statement.Parameters
import TableMapping.Proofs.Text.Order
import TableMapping.Proofs.TextForms
import TableMapping.Proofs.TextStorage
import TableMapping.Proofs.ValueOrder
import TableMapping.Proofs.ValueType
import TableMapping.Request.Creation
import TableMapping.Request.Insertion
import TableMapping.Request.Modification
import TableMapping.Request.Predicate
import TableMapping.Request.Scope
import TableMapping.Request.Selection
import TableMapping.Request.Source
import TableMapping.Row
import TableMapping.Schema.Declaration
import TableMapping.Schema.Draft
import TableMapping.Schema.Fault
import TableMapping.Schema.Property
import TableMapping.Schema.Registry
import TableMapping.Schema.Table
import TableMapping.SqlType
import TableMapping.SqlValue
import TableMapping.Statement.Basic
import TableMapping.Statement.Compiled
import TableMapping.Statement.Token
import TableMapping.Statement.Wording
import TableMapping.Text.Character
import TableMapping.Text.Numeral
import TableMapping.Text.Quoted
import TableMapping.Uuid
import TableMapping.ValueType
