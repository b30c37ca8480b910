import RecordSql.Value.Conversion

/-!
# Errors

The causes for which an operation fails, and the message of each.
-/

namespace RecordSql

/-- The state of a connection, as far as it can be seen. -/
inductive ConnectionState
  | closed
  | opened
  | connecting
  | executing
  | fetching
  | broken
  deriving DecidableEq, Repr

/-- The name of a state. -/
def ConnectionState.name : ConnectionState → String
  | .closed => "Closed"
  | .opened => "Open"
  | .connecting => "Connecting"
  | .executing => "Executing"
  | .fetching => "Fetching"
  | .broken => "Broken"

/-- Why a file cannot be read. -/
inductive FileError
  | missing
  | isDirectory
  | notDirectory
  | notText
  /-- The path or a name in it is too long. -/
  | nameTooLong
  /-- The path holds a null character. -/
  | nullInName
  /-- Any other cause, as its text. -/
  | other (message : String)
  deriving DecidableEq, Repr

/-- The message shown for a file that cannot be read. -/
def FileError.message : FileError → String
  | .missing => "No such file or directory (os error 2)"
  | .isDirectory => "Is a directory (os error 21)"
  | .notDirectory => "Not a directory (os error 20)"
  | .notText => "stream did not contain valid UTF-8"
  | .nameTooLong => "File name too long (os error 36)"
  | .nullInName => "file name contained an unexpected NUL byte"
  | .other message => message

/-- Why an operation fails. -/
inductive Error
  /-- The operation does not fit its result or its input. -/
  | invalidOperation (message : String)
  /-- The kind of command is not supported. -/
  | notImplemented (what : String)
  /-- The connection is neither open nor can it be opened. -/
  | invalidState (state : ConnectionState)
  /-- A column cannot be converted to the type that is wanted. -/
  | decode (column : String) (message : String)
  /-- The database refused a statement. -/
  | database (message : String)
  /-- The database could not be reached or left. -/
  | connection (message : String)
  /-- A setting names nothing known. -/
  | config (message : String)
  /-- A document is malformed or does not have the wanted shape. -/
  | toml
  /-- A file cannot be read. -/
  | file (e : FileError)
  deriving DecidableEq, Repr

namespace Error

/-- More than one row where at most one is wanted. Model of `MapperError::ambiguous`. -/
def ambiguous (count : Nat) : Error :=
  .invalidOperation
    ("Sequence contains more than one element (" ++ toString count ++ " rows)")

/-- The message of an error. What is wrong with a document is not part of it. Model of the `Display`
    of `MapperError`. -/
def message : Error → String
  | .invalidOperation m => "Invalid operation: " ++ m
  | .notImplemented what => "Not implemented: " ++ what
  | .invalidState s => "Connection is in an invalid state: " ++ s.name
  | .decode column m => "Cannot decode column '" ++ column ++ "': " ++ m
  | .database m => "Database error: " ++ m
  | .connection m => "Connection error: " ++ m
  | .config m => "Configuration error: " ++ m
  | .toml => "TOML error: "
  | .file e => "IO error: " ++ e.message

end Error

/-- The value of a column as a value of the type; a failure names the column. Model of `decode`. -/
def Value.decode (column : String) (t : Target) (v : Value) : Except Error t.Carrier :=
  (v.convert t).mapError fun e => .decode column e.message

/-- The value of a column that may be null. -/
def Value.decodeNullable (column : String) (t : Target) (v : Value) :
    Except Error (Option t.Carrier) :=
  (v.convertNullable t).mapError fun e => .decode column e.message

theorem Value.decodeNullable_of_not_isNull {v : Value} (h : v.isNull = false) (column : String)
    (t : Target) : v.decodeNullable column t = (v.decode column t).map some := by
  rw [decodeNullable, convertNullable, h, decode]
  cases v.convert t <;> rfl

end RecordSql
