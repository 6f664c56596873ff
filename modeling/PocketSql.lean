import PocketSql.Bytes
import PocketSql.Cell
import PocketSql.ColumnType
import PocketSql.Engine
import PocketSql.Error
import PocketSql.Integer
import PocketSql.Location
import PocketSql.Log
import PocketSql.Outcome
import PocketSql.Results.Basic
import PocketSql.Results.Wire
import PocketSql.Session
import PocketSql.Shared
import PocketSql.Statement.Basic
import PocketSql.Statement.Expected
import PocketSql.Statement.Form
import PocketSql.Statement.Parser
import PocketSql.Statement.Printer
import PocketSql.Statement.Script
import PocketSql.Store
import PocketSql.Table
import PocketSql.Token.Basic
import PocketSql.Token.Cursor
import PocketSql.Token.Keyword
import PocketSql.Token.Lexer
import PocketSql.Token.Longest
import PocketSql.Token.Numeral
import PocketSql.Token.Quoted
import PocketSql.Token.Scanner
import PocketSql.Token.Symbol
import PocketSql.Unicode.Alphabetic
import PocketSql.Unicode.Cased
import PocketSql.Unicode.Lowercase
import PocketSql.Unicode.Number
import PocketSql.Unicode.Range
import PocketSql.Unicode.Utf8
import PocketSql.Proofs.Statement.Grammar
import PocketSql.Proofs.Statement.Reading
import PocketSql.Proofs.Statement.Prediction
import PocketSql.Proofs.Statement.Acceptance
import PocketSql.Proofs.Statement.Viability
import PocketSql.Proofs.Cell
import PocketSql.Proofs.Sequence
import PocketSql.Proofs.Table
import PocketSql.Proofs.Store.Operations
import PocketSql.Proofs.Store.Typed
import PocketSql.Proofs.Store.History
import PocketSql.Proofs.Token.Longest
import PocketSql.Proofs.Token.Numeral
import PocketSql.Proofs.Token.Lexical
import PocketSql.Proofs.Unicode.Lowercase
import PocketSql.Proofs.Token.Front
import PocketSql.Proofs.Token.Spelling
import PocketSql.Proofs.Statement.Places
import PocketSql.Proofs.Integer
import PocketSql.Proofs.Statement.Printing
import PocketSql.Proofs.Statement.WellFormed
import PocketSql.Proofs.Engine
import PocketSql.Proofs.RoundTrip
import PocketSql.Proofs.Sessions.Interleaving
import PocketSql.Proofs.Sessions.Shared
import PocketSql.Proofs.Sessions.Disjoint
import PocketSql.Proofs.Results.Wire
import PocketSql.Proofs.Token.Word
import PocketSql.Proofs.Location
import PocketSql.Proofs.Token.Pieces
import PocketSql.Proofs.Token.Located
import PocketSql.Proofs.Token.Refusal
import PocketSql.Proofs.Token.Respelling
import PocketSql.Proofs.Token.Seam
import PocketSql.Proofs.Token.Respacing
import PocketSql.Proofs.Session
import PocketSql.Proofs.Concatenation
import PocketSql.Proofs.Relocation
import PocketSql.Proofs.Log
import PocketSql.Proofs.Sessions.Poisoned
import PocketSql.Proofs.Store.Records
import PocketSql.Proofs.Store.Unnamed
import PocketSql.Proofs.Texts
import PocketSql.Proofs.Accounts
import PocketSql.Proofs.Store.Natural
import PocketSql.Proofs.Store.Selection
import PocketSql.Proofs.Literal
import PocketSql.Proofs.Store.Insertion
import PocketSql.Proofs.Token.Reached
import PocketSql.Proofs.Token.BareWord
import PocketSql.Proofs.Token.Opening
import PocketSql.Proofs.Token.LongestNumeral
import PocketSql.Proofs.Statement.Dispatch
import PocketSql.Proofs.Token.Quotation
import PocketSql.Proofs.Store.Creation
import PocketSql.Proofs.Unicode.Recasing
import PocketSql.Proofs.Token.Recasing
import PocketSql.Proofs.Token.Exhaustive
import PocketSql.Proofs.Unicode.IllFormed
import PocketSql.Proofs.Codec
import PocketSql.Proofs.Results.Decoding
import PocketSql.Proofs.Unicode.Folding
import PocketSql.Proofs.Token.FoldedName
import PocketSql.Proofs.Token.Precedence
