import RecordSql.CommandLine.Run
import RecordSql.Database.Scripted

/-!
# Dialects of links

The dialect of a database is told in two ways: by the scheme of its URL, and by the name of the
driver's type that a link to it gives. The driver has a type of its own for MySQL alone, so the name
tells less than the scheme.

* `ofDriver_typeName`: what the name of the driver's type tells about a URL.
* `ofUrl_eq_iff`: which schemes a dialect has.
* `dialect_of_link`: where sessions over a link and the command line compile in one dialect.
-/

namespace RecordSql

open Dialect CommandLine

theorem ofDriver_typeName (url : String) :
    ofDriver (Link.typeName url) = if ofUrl url = .mySql then .mySql else .default := by
  rw [Link.typeName]
  cases ofUrl url with
  | mySql => rfl
  | _ => rfl

namespace Dialect

/-- The schemes of a dialect. The default one has all that are left. -/
def schemes : Dialect → List String
  | .msSql => ["mssql", "sqlserver"]
  | .mySql => ["mysql", "mariadb"]
  | .oracle => ["oracle"]
  | .default => []

theorem ofUrl_eq_iff {url : String} {d : Dialect} (hd : d ≠ .default) :
    ofUrl url = d ↔ scheme url ∈ d.schemes := by
  rw [ofUrl]
  split <;> cases d <;> simp_all [schemes]

end Dialect

theorem Session.dialect_ofConnection {δ η : Type} (db : Database δ η) (url : String) :
    (Session.ofConnection (Link.connection db url)).compiler.dialect =
      if ofUrl url = .mySql then .mySql else .default := by
  simp only [Session.ofConnection, Link.connection, ofDriver_typeName]

theorem Config.effectiveDialect_of_url (c : Config) (url : String) :
    { c with url := some url, dialect := none }.effectiveDialect = ofUrl url := by
  simp [effectiveDialect]

/-- The command line reads a dialect off its settings once, so it does not matter whether the
    dialect is named there or implied. -/
theorem CommandLine.runOnSchema_of_effectiveDialect {δ η : Type} (db : Database δ η)
    (i : Invocation) (c : Config) (schema : Schema) :
    runOnSchema db i c schema =
      runOnSchema db i { c with dialect := some c.effectiveDialect } schema := by
  have hnamed : { c with dialect := some c.effectiveDialect }.effectiveDialect =
      c.effectiveDialect := by
    simp [Config.effectiveDialect]
  simp only [runOnSchema, hnamed, databaseUrl, printStatement]

/-- **The dialect of a link.** For every text of a URL, in any case of its letters,

    - a session over the link compiles in the dialect of MySQL if the URL has a scheme of that
      dialect, and in the default dialect otherwise;
    - this is the dialect of the URL just if its scheme is not one of the two dialects that have no
      driver;
    - the dialect of the URL is the one of all settings that have this URL and name no dialect, and
      the command line does with them what it does if that dialect is named. -/
theorem dialect_of_link {δ η : Type} (db : Database δ η) (url : String) :
    let dialect := (Session.ofConnection (Link.connection db url)).compiler.dialect
    (dialect = if scheme url ∈ mySql.schemes then .mySql else .default) ∧
      (dialect = ofUrl url ↔ scheme url ∉ msSql.schemes ++ oracle.schemes) ∧
      ∀ c : Config,
        let unnamed := { c with url := some url, dialect := none }
        unnamed.effectiveDialect = ofUrl url ∧
          ∀ (i : Invocation) (schema : Schema),
            runOnSchema db i unnamed schema =
              runOnSchema db i { unnamed with dialect := some (ofUrl url) } schema := by
  have hmySql : ofUrl url = .mySql ↔ scheme url ∈ mySql.schemes := ofUrl_eq_iff (by decide)
  refine ⟨?_, ?_, fun c => ⟨c.effectiveDialect_of_url url, fun i schema => ?_⟩⟩
  · simp only [Session.dialect_ofConnection, hmySql]
  · rw [List.mem_append, ← ofUrl_eq_iff (by decide), ← ofUrl_eq_iff (by decide),
      Session.dialect_ofConnection]
    cases ofUrl url with
    | default | mySql => simp
    | msSql | oracle => simp
  · rw [runOnSchema_of_effectiveDialect, c.effectiveDialect_of_url url]

/-- A session over a link to a database whose dialect has no driver does not read new rows back,
    which the dialect of the URL would do. -/
theorem link_loses_dialect :
    let url := "mssql://sa@db/app"
    let compiler := (Session.ofConnection (Link.connection Scripted.database url)).compiler
    ofUrl url = .msSql ∧ compiler.dialect = .default ∧
      compiler.readsBack (some "Id") = false ∧
      ({ dialect := ofUrl url } : Compiler).readsBack (some "Id") = true := by
  refine ⟨?_, ?_, ?_, ?_⟩ <;> decide

end RecordSql
