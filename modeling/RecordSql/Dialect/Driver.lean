import RecordSql.Dialect.Basic
import RecordSql.Text.Basic

/-!
# Dialects of drivers and URLs

A connection is classified by the name of its driver's type, through an ordered table of patterns,
and a database by the scheme of its URL. Neither regards the case of letters, and neither fails:
what is not known has the default dialect.
-/

namespace RecordSql

/-- What is looked for in the name of a driver's type. -/
inductive DriverPattern
  /-- Letters that stand anywhere in the name. -/
  | fragment (letters : String)
  /-- The last part of the name, after any namespaces. -/
  | typeName (letters : String)
  deriving DecidableEq, Repr

/-- The characters between the parts of a qualified name. -/
def isNameSeparator (c : Char) : Bool :=
  c == '.' || c == ':'

/-- Whether a name without capitals has the pattern. Model of `DriverMatch::matches`. -/
def DriverPattern.matches : DriverPattern → List Char → Bool
  | .fragment letters, name => Text.occurs letters.toList name
  | .typeName letters, name => Text.lastSegment isNameSeparator name == letters.toList

namespace Dialect

/-- The patterns in the order in which they are tried. Drivers for MySQL come first since the names
    of their types can end in the type name that stands for another dialect. Model of
    `DRIVER_PATTERNS`. -/
def driverPatterns : List (DriverPattern × Dialect) :=
  [(.fragment "mysql", .mySql),
   (.fragment "mariadb", .mySql),
   (.fragment "oracle", .oracle),
   (.typeName "sqlconnection", .msSql),
   (.fragment "sqlserver", .msSql),
   (.fragment "mssql", .msSql),
   (.fragment "tiberius", .msSql)]

/-- The dialect of a driver, by the name of its type. Model of `Dialect::resolve`. -/
def ofDriver (typeName : String) : Dialect :=
  let name := (Text.lower typeName).toList
  ((driverPatterns.find? fun p => p.1.matches name).map Prod.snd).getD .default

/-- The scheme of a URL, without capitals. -/
def scheme (url : String) : String :=
  Text.lower (String.ofList (Text.firstSegment (· == ':') url.toList))

/-- The dialect of a database, by the scheme of its URL. Model of `Dialect::from_url`. -/
def ofUrl (url : String) : Dialect :=
  match scheme url with
  | "mysql" | "mariadb" => .mySql
  | "mssql" | "sqlserver" => .msSql
  | "oracle" => .oracle
  | _ => .default

end Dialect

end RecordSql
