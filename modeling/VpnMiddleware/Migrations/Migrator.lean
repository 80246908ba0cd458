import VpnMiddleware.Core.SqlSession
import VpnMiddleware.Migrations.SqlFiles

/-!
# The migration runner

`migrate.sh`: each file that is not recorded is applied by `psql` with
`ON_ERROR_STOP`, in one transaction with its bookkeeping insert unless it adds
an enum value.  A run may be killed between any two commands, and the script
ends at the first error.
-/

namespace VpnMiddleware.Migrator

open VpnMiddleware.SqlSession VpnMiddleware.DataDefinition VpnMiddleware.SqlFiles

/-- The catalog, and the rows of `schema_migrations`. -/
structure Database where
  catalog : Catalog := {}
  recorded : List String := []
  deriving DecidableEq, Repr

inductive Statement
  | ddl (definition : Ddl)
  /-- `insert into schema_migrations(filename) values (..)`. -/
  | record (filename : String)
  deriving DecidableEq, Repr

def Statement.exec : Statement → Database → Option Database
  | .ddl definition, db =>
      (definition.exec db.catalog).map fun catalog =>
        { db with catalog := catalog }
  | .record filename, db =>
      if db.recorded.contains filename then none
      else some { db with recorded := db.recorded ++ [filename] }

def isAddValue : Ddl → Bool
  | .addValue _ _ => true
  | _ => false

/-- `grep -qi -E "alter type.*add value"`; no comment of a file matches. -/
def addsValue (file : File) : Bool := file.statements.any isAddValue

def ddlOf (file : File) : List Statement := file.statements.map .ddl

/-- What `psql -f` reads. -/
def scriptOf (file : File) : List (Command Statement) :=
  if file.ownTransaction then .begin :: (ddlOf file).map .run ++ [.commit]
  else (ddlOf file).map .run

/-- The commands of `apply`: two calls of `psql`, or one with
`--single-transaction`. -/
def commandsOf (file : File) : List (Command Statement) :=
  if addsValue file then
    scriptOf file ++ [.disconnect, .run (.record file.name)]
  else .begin :: scriptOf file ++ [.run (.record file.name), .commit]

/-- A run is killed in the `apply` of a file, after a number of commands. -/
structure Kill where
  filename : String
  after : ℕ
  deriving DecidableEq, Repr

inductive Outcome
  | completed (db : Database)
  | failed (db : Database)
  | killed (db : Database)
  deriving DecidableEq, Repr

/-- What a run leaves behind. -/
def Outcome.db : Outcome → Database
  | .completed db | .failed db | .killed db => db

def executeAll (commands : List (Command Statement)) (db : Database) :
    Session Database × Bool :=
  Session.execute Statement.exec commands { durable := db }

/-- The loop over the files. -/
def run (kill : Option Kill) : List File → Database → Outcome
  | [], db => .completed db
  | file :: files, db =>
      if db.recorded.contains file.name then run kill files db
      else
        match kill.filter fun kill => kill.filename == file.name with
        | some kill =>
            match executeAll ((commandsOf file).take kill.after) db with
            | (session, true) => .killed session.durable
            | (session, false) => .failed session.durable
        | none =>
            match executeAll (commandsOf file) db with
            | (session, true) => run kill files session.durable
            | (session, false) => .failed session.durable

/-- The database after some runs. -/
def afterRuns (files : List File) : List (Option Kill) → Database → Database
  | [], db => db
  | kill :: kills, db => afterRuns files kills (run kill files db).db

end VpnMiddleware.Migrator
