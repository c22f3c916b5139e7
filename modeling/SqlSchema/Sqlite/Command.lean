import SqlSchema.Schema.ForeignKey
import SqlSchema.Sqlite.Fault
import SqlSchema.Sqlite.Storage

/-! Commands: what the text of one statement asks for. Of the language of SQLite these are the
definition of tables, the statements on the rows of one table, selections from one table or named
selection, and the settings that can be asked for or made. -/

namespace SqlSchema.Sqlite

open SqlSchema.Schema

inductive Operator
  | or
  | and
  | same
  | different
  | equal
  | unequal
  | less
  | atMost
  | greater
  | atLeast
  | bitAnd
  | bitOr
  | shiftLeft
  | shiftRight
  | add
  | subtract
  | multiply
  | divide
  | remainder
  | concat
  deriving Repr, DecidableEq

/-- How texts are compared: as they are, the case of ASCII letters aside, or spaces at the end
aside. -/
inductive Collation
  | binary
  | noCase
  | rightTrimmed
  deriving Repr, DecidableEq

/-- An expression. A column that was quoted by double quotation marks is a string if there is no
column of its name. The parts of a choice are conditions and results in turn, and the result of the
remaining case. What is refused can be written, but has no value. -/
inductive Expr
  | literal (v : Stored)
  | parameter
  | column (table : Option String) (name : String) (orText : Bool)
  | negation (e : Expr)
  | opposite (e : Expr)
  | complement (e : Expr)
  | binary (op : Operator) (left right : Expr)
  | member (e : Expr) (items : List Expr)
  | choice (parts : List Expr)
  | cast (e : Expr) (type : String)
  | collated (e : Expr) (collation : Collation)
  | call (function : String) (arguments : List Expr)
  | countAll
  | refused (fault : Fault)
  deriving Inhabited, Repr, BEq

/-- A column of a selection: all columns there are, those under a label, or an expression with its
label and its text as it is written. -/
inductive Projection
  | all
  | allOf (table : String)
  | expr (e : Expr) (label : Option String) (written : String)
  deriving Repr

structure OrderTerm where
  expr : Expr
  descending : Bool
  deriving Repr

/-- A selection of rows from a table or a named selection. -/
structure Selection where
  distinct : Bool := false
  projections : List Projection
  source : Option (String × Option String) := none
  condition : Option Expr := none
  groups : List Expr := []
  having : Option Expr := none
  order : List OrderTerm := []
  limit : Option Expr := none
  offset : Option Expr := none
  deriving Repr

/-- A query: a selection, or rows of values written out. -/
inductive Query
  | select (s : Selection)
  | values (rows : List (List Expr))
  deriving Repr

/-- What is done about a row that breaks a constraint. A failure keeps the rows before it. A
statement that stands alone is rolled back like one that is aborted. -/
inductive Conflict
  | rollback
  | abort
  | fail
  | ignore
  | replace
  deriving Repr, DecidableEq

/-- A column as a table definition has it. A column without nulls says what is done about one, and a
generated one how its values come about. -/
structure ColumnDefinition where
  name : String
  declared : String := ""
  notNull : Option Conflict := none
  default : Option Expr := none
  collation : Collation := .binary
  generated : Option Expr := none
  deriving Repr

/-- A reference to the rows of a table; without target columns these are its primary key. A deferred
one is looked at when all rows of a statement are done. -/
structure Reference where
  columns : List String
  table : String
  targets : List String := []
  onDelete : ReferentialAction := .noAction
  onUpdate : ReferentialAction := .noAction
  deferred : Bool := false
  deriving Repr, DecidableEq

/-- A constraint on a table: a key of some columns, a condition under its name, or a reference. Only
a primary key that is not said to descend can be the number of the row, and only such a one can
count on from rows that are gone. -/
inductive TableConstraint
  | primaryKey (columns : List String) (conflict : Option Conflict) (descending counting : Bool)
  | unique (columns : List String) (conflict : Option Conflict)
  | check (name : String) (condition : Expr)
  | reference (r : Reference)
  deriving Repr

/-- What one statement asks for. What is said about conflicts goes before what the constraints
say. -/
inductive Action
  | createTable (ifAbsent : Bool) (name : String) (columns : List ColumnDefinition)
      (constraints : List TableConstraint)
  | dropTable (ifPresent : Bool) (name : String)
  | insert (conflict : Option Conflict) (table : String) (columns : Option (List String))
      (source : Option Query)
  | update (conflict : Option Conflict) (table : String) (assignments : List (String × Expr))
      (condition : Option Expr)
  | delete (table : String) (condition : Option Expr)
  | query (q : Query)
  | pragma (name : String) (assigned : Option String)
  deriving Repr

/-- A selection that a statement names for its own use, and its columns if they are renamed. -/
structure NamedQuery where
  name : String
  columns : List String
  query : Query
  deriving Repr

/-- A statement: the selections that it names, and what it asks for. -/
structure Command where
  named : List NamedQuery := []
  action : Action
  deriving Repr

end SqlSchema.Sqlite
