import Mathlib.Data.Option.Basic

/-!
# Data definition

What data definition statements check and change: the names that exist, the
types and the nullability of columns, and the tables that foreign keys and
functions refer to.
-/

namespace VpnMiddleware.DataDefinition

structure Column where
  name : String
  type : String
  notNull : Bool := false
  references : Option String := none
  deriving DecidableEq, Repr

structure Table where
  name : String
  columns : List Column
  deriving DecidableEq, Repr

structure Index where
  name : String
  table : String
  columns : List String
  deriving DecidableEq, Repr

/-- The database as far as migrations are concerned. -/
structure Catalog where
  extensions : List String := []
  /-- Enum types with their labels. -/
  types : List (String × List String) := []
  tables : List Table := []
  indexes : List Index := []
  functions : List String := []
  /-- Triggers with their tables. -/
  triggers : List (String × String) := []
  deriving DecidableEq, Repr

/-- The statements of the migration files. -/
inductive Ddl
  /-- `create extension if not exists`. -/
  | createExtension (name : String)
  | createType (name : String) (labels : List String)
  /-- A `do` block that creates the type unless `pg_type` has it. -/
  | createTypeIfMissing (name : String) (labels : List String)
  /-- `alter type .. add value if not exists`. -/
  | addValue (type label : String)
  | createTable (ifNotExists : Bool) (table : Table)
  /-- `drop table if exists`. -/
  | dropTable (name : String)
  /-- One `alter table` that adds columns. -/
  | addColumns (ifNotExists : Bool) (table : String) (columns : List Column)
  /-- `alter table .. drop column if exists`. -/
  | dropColumn (table column : String)
  | setType (table column type : String)
  | dropNotNull (table column : String)
  | createIndex (ifNotExists : Bool) (index : Index)
  /-- `create or replace function`; an SQL body reads tables. -/
  | createFunction (name : String) (reads : List String)
  | createTrigger (name table function : String)
  | commentOnColumn (table column : String)
  deriving DecidableEq, Repr

def builtinTypes : List String :=
  ["uuid", "text", "boolean", "timestamptz", "integer", "smallint", "bigint",
    "jsonb", "bytea", "inet", "real", "date", "text[]", "char(2)"]

namespace Catalog

variable (catalog : Catalog)

def hasType (type : String) : Bool :=
  builtinTypes.contains type || (catalog.types.any fun known => known.1 == type) ||
    (type == "citext" && catalog.extensions.contains "citext")

def table? (name : String) : Option Table :=
  catalog.tables.find? fun table => table.name == name

/-- Tables and indexes share their names. -/
def hasRelation (name : String) : Bool :=
  (catalog.table? name).isSome ||
    catalog.indexes.any fun index => index.name == name

def hasColumn (table column : String) : Bool :=
  (catalog.table? table).any fun found =>
    found.columns.any fun known => known.name == column

/-- The type of the column and the table it refers to exist. -/
def accepts (own : String) (column : Column) : Bool :=
  catalog.hasType column.type && column.references.all fun referenced =>
    referenced == own || (catalog.table? referenced).isSome

def updateTable (name : String) (change : List Column → List Column) : Catalog :=
  { catalog with
    tables := catalog.tables.map fun table =>
      if table.name == name then { table with columns := change table.columns }
      else table }

def addLabel (type label : String) : Catalog :=
  { catalog with
    types := catalog.types.map fun known =>
      if known.1 == type && !known.2.contains label
      then (known.1, known.2 ++ [label]) else known }

/-- The columns that the table does not have. -/
def missing (table : String) (columns : List Column) : List Column :=
  columns.filter fun column => !catalog.hasColumn table column.name

end Catalog

/-- A result under a condition; none is an error. -/
def ensuring (condition : Bool) (catalog : Catalog) : Option Catalog :=
  if condition then some catalog else none

/-- One statement; none is an error. -/
def Ddl.exec : Ddl → Catalog → Option Catalog
  | .createExtension name, catalog =>
      if catalog.extensions.contains name then some catalog
      else some { catalog with extensions := catalog.extensions ++ [name] }
  | .createType name labels, catalog =>
      ensuring (!catalog.hasType name)
        { catalog with types := catalog.types ++ [(name, labels)] }
  | .createTypeIfMissing name labels, catalog =>
      if catalog.hasType name then some catalog
      else some { catalog with types := catalog.types ++ [(name, labels)] }
  | .addValue type label, catalog =>
      ensuring (catalog.types.any fun known => known.1 == type)
        (catalog.addLabel type label)
  | .createTable ifNotExists table, catalog =>
      if catalog.hasRelation table.name then ensuring ifNotExists catalog
      else ensuring (table.columns.all (catalog.accepts table.name))
        { catalog with tables := catalog.tables ++ [table] }
  | .dropTable name, catalog =>
      some { catalog with
        tables := catalog.tables.filter fun table => table.name != name
        indexes := catalog.indexes.filter fun index => index.table != name }
  | .addColumns ifNotExists table columns, catalog =>
      let missing := catalog.missing table columns
      ensuring ((catalog.table? table).isSome &&
          (ifNotExists || missing.length == columns.length) &&
          missing.all (catalog.accepts table))
        (catalog.updateTable table (· ++ missing))
  | .dropColumn table column, catalog =>
      ensuring (catalog.table? table).isSome
        (catalog.updateTable table fun columns =>
          columns.filter fun known => known.name != column)
  | .setType table column type, catalog =>
      ensuring (catalog.hasColumn table column && catalog.hasType type)
        (catalog.updateTable table fun columns => columns.map fun known =>
          if known.name == column then { known with type := type } else known)
  | .dropNotNull table column, catalog =>
      ensuring (catalog.hasColumn table column)
        (catalog.updateTable table fun columns => columns.map fun known =>
          if known.name == column then { known with notNull := false } else known)
  | .createIndex ifNotExists index, catalog =>
      if catalog.hasRelation index.name then ensuring ifNotExists catalog
      else ensuring (index.columns.all (catalog.hasColumn index.table))
        { catalog with indexes := catalog.indexes ++ [index] }
  | .createFunction name reads, catalog =>
      ensuring (reads.all fun table => (catalog.table? table).isSome)
        (if catalog.functions.contains name then catalog
        else { catalog with functions := catalog.functions ++ [name] })
  | .createTrigger name table function, catalog =>
      ensuring (!catalog.triggers.contains (name, table) &&
          (catalog.table? table).isSome && catalog.functions.contains function)
        { catalog with triggers := catalog.triggers ++ [(name, table)] }
  | .commentOnColumn table column, catalog =>
      ensuring (catalog.hasColumn table column) catalog

end VpnMiddleware.DataDefinition
