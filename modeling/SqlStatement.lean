import SqlStatement.Builder.Build
import SqlStatement.Builder.Delete
import SqlStatement.Builder.Insert
import SqlStatement.Builder.Proc
import SqlStatement.Builder.Returning
import SqlStatement.Builder.Select
import SqlStatement.Builder.Statement
import SqlStatement.Builder.Update
import SqlStatement.Diagnostic
import SqlStatement.Dialect
import SqlStatement.Error
import SqlStatement.Event
import SqlStatement.InList
import SqlStatement.Info
import SqlStatement.Kind
import SqlStatement.Name
import SqlStatement.NameMap
import SqlStatement.Number.Binary64
import SqlStatement.Number.Fixed
import SqlStatement.Printer
import SqlStatement.Proofs.Calls
import SqlStatement.Proofs.Clause
import SqlStatement.Proofs.Credits
import SqlStatement.Proofs.Entries
import SqlStatement.Proofs.Filter
import SqlStatement.Proofs.Listing
import SqlStatement.Proofs.Numbering
import SqlStatement.Proofs.Query.Nesting
import SqlStatement.Proofs.Query.Template
import SqlStatement.Proofs.RawText.Characters
import SqlStatement.Proofs.RawText.Modes
import SqlStatement.Proofs.RawText.Values
import SqlStatement.Proofs.Redirected
import SqlStatement.Proofs.Returning
import SqlStatement.Proofs.Statement
import SqlStatement.Proofs.SubQuery
import SqlStatement.Proofs.Tables
import SqlStatement.Proofs.Template
import SqlStatement.Proofs.Writes
import SqlStatement.Query.Basic
import SqlStatement.Query.Condition
import SqlStatement.Query.Layout
import SqlStatement.Query.Where
import SqlStatement.Query.Words
import SqlStatement.RawText
import SqlStatement.Stored.Dialect
import SqlStatement.Stored.Document
import SqlStatement.Stored.Info
import SqlStatement.Tally
import SqlStatement.Text.Blank
import SqlStatement.Text.CodeRange
import SqlStatement.Text.LetterCase
import SqlStatement.Text.Lowercase
import SqlStatement.Proofs.Families
import SqlStatement.Proofs.Assignments
import SqlStatement.Proofs.Query.Hole
import SqlStatement.Proofs.Settings
import SqlStatement.Proofs.Fields
import SqlStatement.Proofs.Overwrites
import SqlStatement.Proofs.Lists
import SqlStatement.Proofs.Wording
import SqlStatement.Proofs.Procedure
import SqlStatement.Proofs.Diagnostics
import SqlStatement.Proofs.Log
import SqlStatement.Proofs.Stored
import SqlStatement.Proofs.RawText.Markers
import SqlStatement.Proofs.Rearranged
import SqlStatement.Proofs.WhereClause
import SqlStatement.Proofs.Performed
import SqlStatement.Proofs.RawText.Comparisons
import SqlStatement.Proofs.RawText.Scan
import SqlStatement.Proofs.Literals
import SqlStatement.Proofs.Precedence
import SqlStatement.Proofs.Numerals
import SqlStatement.Proofs.Spelling
import SqlStatement.Proofs.Rounding
import SqlStatement.Proofs.Decimals
import SqlStatement.Proofs.Floats
