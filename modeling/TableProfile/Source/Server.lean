import TableProfile.Source.Table
import TableProfile.Sql.Connection
import TableProfile.Sql.Identifier
import TableProfile.Sql.Sample

/-!
# The tables of a database schema

A schema on a database server is known by the connection string of the
server, the name of the schema, and the way in which rows are chosen. The
connection string is checked when the schema is named; the server is
contacted with the first question.

What answers the questions is a link to the server. It is not known here,
and is given by whoever asks.
-/

namespace TableProfile

open Sql

/-- **A schema on a database server.** -/
structure ServerSchema where
  /-- The connection string of the server. -/
  connection : String
  /-- The name of the schema. -/
  schema : String := "public"
  /-- How rows are chosen. -/
  sampling : Sampling := .random
  deriving DecidableEq, Repr

/-- **A link to a server**: the rows that answer a statement with these
parameters. -/
abbrev ServerLink : Type := String → List String → Except ProfileError (List Row)

/-- The links to all servers. -/
abbrev Servers : Type := ServerSchema → ServerLink

namespace ServerSchema

/-- **Checks the connection string.** -/
def validate (server : ServerSchema) : Except ProfileError Unit :=
  match databaseOf server.connection with
  | .ok _ => .ok ()
  | .error fault => .error (.configuration ("PostgreSQL pool: " ++ fault.message))

/-- The statement that lists the tables of a schema. -/
def tablesStatement : String :=
  "SELECT table_name::text FROM information_schema.tables " ++
  "WHERE table_schema = $1 AND table_type = 'BASE TABLE' ORDER BY table_name"

/-- The statement that describes the columns of a table. -/
def columnsStatement : String :=
  "SELECT column_name::text, data_type::text FROM information_schema.columns " ++
  "WHERE table_schema = $1 AND table_name = $2 ORDER BY ordinal_position"

/-- The statement that counts the rows of a table. -/
def countStatement (server : ServerSchema) (table : String) : String :=
  "SELECT COUNT(*) FROM " ++ qualified server.schema table

/-- The statement that yields the rows of a table. -/
def rowsStatement (server : ServerSchema) (table : String) (limit : Option Nat) : String :=
  server.sampling.query (qualified server.schema table) limit

/-- The column that a row of the catalogue describes. -/
def describedColumn (row : Row) : ColumnHeader where
  name := row.headD ""
  declared := row[1]?

/-- The number in the only cell of an answer. -/
def countOf (rows : List Row) : Option Int :=
  (rows.head? >>= List.head?) >>= fun cell => Number.int64? cell.toList

/-- **The schema as a source.** -/
def toSource (server : ServerSchema) (link : ServerLink) : Source where
  tables := (link tablesStatement [server.schema]).map fun rows => rows.map (·.headD "")
  columns table := .ofExcept
    ((link columnsStatement [server.schema, table]).map fun rows => rows.map describedColumn)
  rowCount table := .ofExcept ((link (server.countStatement table) []).map countOf)
  rows table limit :=
    .ofExcept ((link (server.rowsStatement table limit) []).map fun rows => rows.map .value)

end ServerSchema

end TableProfile
