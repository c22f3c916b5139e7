import SqlSchema.Decode
import SqlSchema.Text.Case

/-! The database backends, with their names and their rules for escaping. -/

namespace SqlSchema

open SqlSchema.Text

/-- A rule that makes a text safe at the place of a quoted name or literal. Quotes around it are
not part of its work. -/
abbrev Escaper := String → String

inductive Backend
  | mySql
  | sqlite
  deriving Inhabited, Repr, DecidableEq

namespace Backend

def all : List Backend := [.mySql, .sqlite]

def default : Backend := .mySql

def displayName : Backend → String
  | .mySql => "MySQL"
  | .sqlite => "SQLite"

def name : Backend → String
  | .mySql => "mysql"
  | .sqlite => "sqlite"

/-- The port of a server where none is given; a backend without servers has none. -/
def defaultPort? : Backend → Option Nat
  | .mySql => some 3306
  | .sqlite => none

/-- The backend that a name or a scheme means, in any case. -/
def ofText? (s : String) : Option Backend :=
  match lower s with
  | "mysql" | "mariadb" => some .mySql
  | "sqlite" | "sqlite3" => some .sqlite
  | _ => none

def toJson (b : Backend) : Json :=
  .text b.name

def ofJson : Decoder Backend :=
  Decode.choice false (all.map fun b => (b.name, b))

/-! ### Escaping -/

/-- A character inside a MySQL literal: controls that would end or change a statement, quotes and
backslashes get a backslash. -/
def backslashed (c : Char) : List Char :=
  if c == '\x00' then ['\\', '0']
  else if c == '\n' then ['\\', 'n']
  else if c == '\r' then ['\\', 'r']
  else if c == '\\' then ['\\', '\\']
  else if c == '\x27' then ['\\', '\x27']
  else if c == '\x22' then ['\\', '\x22']
  else if c == '\x1a' then ['\\', 'Z']
  else [c]

/-- A character inside an SQLite literal: the single quote is doubled. -/
def doubled (c : Char) : List Char :=
  if c == '\x27' then ['\x27', '\x27'] else [c]

def escapeChar : Backend → Char → List Char
  | .mySql => backslashed
  | .sqlite => doubled

def escape (b : Backend) : Escaper := fun s =>
  String.ofList (s.toList.flatMap b.escapeChar)

end Backend

end SqlSchema
