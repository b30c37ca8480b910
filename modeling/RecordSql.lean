import RecordSql.Connection.Recorded
import RecordSql.Database.Scripted
import RecordSql.Document.Json.Reader
import RecordSql.Main
import RecordSql.Schema.ColumnType
import RecordSql.Value.Document
import RecordSql.Proofs.CommandLine.Insertion
import RecordSql.Proofs.Compiler.LiteralConditions
import RecordSql.Proofs.Compiler.NullConditions
import RecordSql.Proofs.Compiler.QuotedNames
import RecordSql.Proofs.Connection.Conditions
import RecordSql.Proofs.Database.Cells
import RecordSql.Proofs.Database.Dialects
import RecordSql.Proofs.Database.LazyOpening
import RecordSql.Proofs.Statement.MarkedNames
import RecordSql.Proofs.Value.DateTimes
import RecordSql.Proofs.Database.SchemeCase
import RecordSql.Proofs.Number.Grammar
import RecordSql.Proofs.Value.LooseTexts
import RecordSql.Proofs.CommandLine.Pairs
import RecordSql.Proofs.Number.Shortest
import RecordSql.Proofs.Number.WideIntegers
import RecordSql.Proofs.Value.IntegerTexts
import RecordSql.Proofs.Statement.InsertionOrder
import RecordSql.Proofs.Value.IntegerConversions
import RecordSql.Proofs.CommandLine.Description
import RecordSql.Proofs.Compiler.DialectPairs
import RecordSql.Proofs.Dialect.DriverNames
import RecordSql.Proofs.Config.Layers
import RecordSql.Proofs.Connection.Materialization
import RecordSql.Proofs.CommandLine.Alignment
