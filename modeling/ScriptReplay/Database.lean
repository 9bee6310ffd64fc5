import ScriptReplay.Report
import ScriptReplay.Text.Blank
import ScriptReplay.Text.Case
import ScriptReplay.Text.Similarity

/-!
# Database systems

The systems a script can be written for, and how they are named. `Database.resolve` finds a system by
its name or by one of its other common names, without regard to case and to white space around it,
and suggests names when there is none.
-/

namespace ScriptReplay

/-- The database system a script is written for. -/
inductive Database
  | generic
  | postgresql
  | sqlserver
  | mysql
  | mariadb
  | oracle
  | db2
  | h2
  | sybase
  deriving Repr, DecidableEq

namespace Database

/-- All systems, in the order in which they are suggested. -/
def all : List Database :=
  [.generic, .postgresql, .sqlserver, .mysql, .mariadb, .oracle, .db2, .h2, .sybase]

/-- The name of a system. -/
def name : Database → String
  | .generic => "generic"
  | .postgresql => "postgresql"
  | .sqlserver => "sqlserver"
  | .mysql => "mysql"
  | .mariadb => "mariadb"
  | .oracle => "oracle"
  | .db2 => "db2"
  | .h2 => "h2"
  | .sybase => "sybase"

/-- Other common names of systems. -/
def aliases : List (String × Database) := [
  ("postgres", .postgresql),
  ("pg", .postgresql),
  ("pgsql", .postgresql),
  ("mssql", .sqlserver),
  ("tsql", .sqlserver),
  ("sql_server", .sqlserver),
  ("oracledb", .oracle),
  ("plsql", .oracle),
  ("maria", .mariadb),
  ("ase", .sybase),
  ("default", .generic)]

/-- Whether lines in dollar signs can hide a delimiter from the splitter. -/
def usesDollarQuoting (database : Database) : Bool :=
  database == .postgresql

/-- The SQL dialect that parsers of SQL know a system by, if they know it. -/
def dialect? : Database → Option String
  | .postgresql => some "postgres"
  | .sqlserver => some "tsql"
  | .mysql | .mariadb => some "mysql"
  | .oracle => some "oracle"
  | .generic | .db2 | .h2 | .sybase => none

/-- The system with exactly this name. -/
def ofName? (text : String) : Option Database :=
  all.find? (·.name == text)

/-- A name in the form in which names are compared: in lower case, without white space around it. -/
def normalize (text : String) : String :=
  Text.strip (String.ofList (Text.lower text.toList))

/-- The system that a normalized name or alias stands for. -/
def lookup? (name : String) : Option Database :=
  match aliases.lookup name with
  | some database => some database
  | none => ofName? name

/-- Every name and alias. -/
def candidates : List String :=
  all.map name ++ aliases.map (·.1)

/-- The names closest to one that was not found. -/
def suggestions (text : String) : List String :=
  Text.suggestions (normalize text) candidates

/-- The report for a name that no system has. -/
def unknownReport (text : String) : Report :=
  let hints := suggestions text
  .configuration
    ("Unknown database type '" ++ text ++ "'"
      ++ (if hints.isEmpty then "" else ". Did you mean: " ++ ", ".intercalate hints ++ "?"))

/-- The system that a name stands for, in any case and with white space around it. -/
def resolve (text : String) : Except Report Database :=
  match lookup? (normalize text) with
  | some database => .ok database
  | none => .error (unknownReport text)

end Database

end ScriptReplay
