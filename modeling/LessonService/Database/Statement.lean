import LessonService.Database

namespace LessonService.Database

inductive Dialect where
  | postgreSql
  | sqlite
deriving DecidableEq

inductive ColumnType where
  | string (length : Option Nat)
  | text
  | time

/-- What a column holds unless it is given something. -/
inductive Standard where
  | value (t : Text)
  | now

structure Column where
  name : Text
  type : ColumnType
  standard : Option Standard := none
  isRequired : Bool := true

inductive Constraint where
  | primaryKey (name : Option Text) (column : Text)
  | check (name condition : Text)

structure Table where
  name : Text
  columns : List Column
  constraints : List Constraint

/-- What makes and removes tables. -/
inductive Statement where
  | openTransaction
  | closeTransaction
  | note (t : Text)
  | createTable (t : Table)
  | dropTable (name : Text)
  | createIndex (name table : Text) (columns : List Text)
  | dropIndex (name : Text)
  /-- Replaces the revision that is recorded; no revision is the state before all of them. -/
  | record (last next : Option Text)

def ColumnType.sql (d : Dialect) : ColumnType → Text
  | string none => "VARCHAR"
  | string (some n) => "VARCHAR(" ++ Text.ofNat n ++ ")"
  | text => "TEXT"
  | time =>
    match d with
    | .postgreSql => "TIMESTAMP WITH TIME ZONE"
    | .sqlite => "DATETIME"

/-- A text in quotes, with those in it written twice. -/
def quoted (t : Text) : Text :=
  "'" ++ t.flatMap (fun (c : CodePoint) => if c = '\'' then [c, c] else [c]) ++ Text.ofString "'"

def Standard.sql (d : Dialect) : Standard → Text
  | value t => quoted t
  | now =>
    match d with
    | .postgreSql => "now()"
    | .sqlite => "(now())"

def Column.sql (d : Dialect) (c : Column) : Text :=
  let standard : Text := c.standard.elim [] fun s => " DEFAULT " ++ s.sql d
  let required : Text := if c.isRequired then " NOT NULL" else ""
  c.name ++ " " ++ c.type.sql d ++ standard ++ required

def Constraint.sql : Constraint → Text
  | primaryKey name column =>
    let start : Text := name.elim [] fun n => "CONSTRAINT " ++ n ++ " "
    start ++ "PRIMARY KEY (" ++ column ++ ")"
  | check name condition => "CONSTRAINT " ++ name ++ " CHECK (" ++ condition ++ ")"

def Table.sql (d : Dialect) (t : Table) : Text :=
  "CREATE TABLE " ++ t.name ++ " (\n    "
    ++ Text.join ", \n    " (t.columns.map (Column.sql d) ++ t.constraints.map Constraint.sql) ++ "\n)"

def recordSql (d : Dialect) : Option Text → Option Text → Text
  | none, none => []
  | none, some next =>
    let answer : Text :=
      match d with
      | .postgreSql => "alembic_version.version_num"
      | .sqlite => "version_num"
    "INSERT INTO alembic_version (version_num) VALUES (" ++ quoted next ++ ") RETURNING " ++ answer
  | some last, none => "DELETE FROM alembic_version WHERE alembic_version.version_num = " ++ quoted last
  | some last, some next =>
    "UPDATE alembic_version SET version_num=" ++ quoted next ++ " WHERE alembic_version.version_num = " ++ quoted last

namespace Statement

def sql (d : Dialect) : Statement → Text
  | openTransaction => "BEGIN;"
  | closeTransaction => "COMMIT;"
  | note t => "-- " ++ t
  | createTable t => t.sql d ++ ";"
  | dropTable name => "DROP TABLE " ++ name ++ ";"
  | createIndex name table columns =>
    "CREATE INDEX " ++ name ++ " ON " ++ table ++ " (" ++ Text.join ", " columns ++ ");"
  | dropIndex name => "DROP INDEX " ++ name ++ ";"
  | record last next => recordSql d last next ++ ";"

/-- What the statement does to a database. A table takes with it what it holds. -/
def run (db : Database) : Statement → Database
  | createTable t => { db with names := db.names ++ [t.name] }
  | createIndex name _ _ => { db with names := db.names ++ [name] }
  | dropIndex name => { db with names := db.names.erase name }
  | dropTable name =>
    { db with
      names := db.names.erase name
      lessons := if name = lessonsTable then {} else db.lessons
      revisions := if name = revisionsTable then [] else db.revisions }
  | record last next =>
    { db with revisions := (db.revisions.filter fun r => some r ≠ last) ++ next.toList }
  | openTransaction | closeTransaction | note _ => db

def runAll (db : Database) (ss : List Statement) : Database := ss.foldl run db

/-- Statements as a script. -/
def script (d : Dialect) (ss : List Statement) : Text := ss.flatMap fun s => s.sql d ++ "\n\n"

end Statement

end LessonService.Database
