import SqlSchema.Backend
import SqlSchema.Schema.ForeignKey
import SqlSchema.Schema.Registry
import SqlSchema.Text.Joined

/-! Tables as statements that create them. The clauses of a table are its columns in order, its
primary key and its foreign keys; the first column with a defect decides the error. -/

namespace SqlSchema.Schema

open SqlSchema.Text

/-- A finite number as a default: an integral one has all its digits and `.0`, so that it stays a
float; a number that is not finite becomes `NULL`. -/
def floatSql (x : Number.Double) : String :=
  if x.isFinite then
    match x.integral? with
    | some n => x.signText ++ toString n ++ ".0"
    | none => x.positional
  else "NULL"

def DefaultValue.sql (escape : Escaper) : DefaultValue → String
  | .bool b => if b then "true" else "false"
  | .integer n => toString n.toInt
  | .float x => floatSql x
  | .text s => "'" ++ escape s ++ "'"
  | .expression sql => sql

/-- Whether a column admits nulls. A nullable primary key says nothing. -/
def Column.nullClause (c : Column) (isPrimaryKey : Bool) : String :=
  if !c.nullable then " NOT NULL" else textIf (!isPrimaryKey) " NULL"

def Column.defaultClause (escape : Escaper) (c : Column) : String :=
  match c.default with
  | some default => " DEFAULT " ++ default.sql escape
  | none => ""

/-- The definition of a column of a type: name, type, uniqueness, nulls, default and numbering, in
this order. -/
def Column.clause (escape : Escaper) (name type : String) (c : Column) (isPrimaryKey : Bool) :
    String :=
  "`" ++ escape name ++ "` " ++ type ++ textIf c.unique " UNIQUE" ++ c.nullClause isPrimaryKey
    ++ c.defaultClause escape ++ textIf c.autoIncrement " AUTO_INCREMENT"

def primaryKeyClause (escape : Escaper) (column : String) : String :=
  "CONSTRAINT " ++ escape column ++ " PRIMARY KEY (`" ++ escape column ++ "`)"

def actionClause (event : String) (action : Option ReferentialAction) : String :=
  match action with
  | some action => " ON " ++ event ++ " " ++ action.sql
  | none => ""

/-- The name of the constraint of a foreign key: the table and the column. -/
def ForeignKey.constraintName (escape : Escaper) (table : String) (k : ForeignKey) : String :=
  "fk_" ++ escape table ++ "_" ++ escape k.localColumn

def ForeignKey.clause (escape : Escaper) (table : String) (k : ForeignKey) : String :=
  "CONSTRAINT " ++ k.constraintName escape table ++ " FOREIGN KEY(" ++ escape k.localColumn
    ++ ") REFERENCES " ++ escape k.table ++ "(" ++ escape k.column ++ ")"
    ++ actionClause "UPDATE" k.onUpdate ++ actionClause "DELETE" k.onDelete

def compileColumn (escape : Escaper) (primaryKey : Option String) (entry : String × Column) :
    Except SchemaError (String × Option ForeignKey) :=
  match entry.2.type with
  | none => .error (.missingType entry.1)
  | some type =>
    let clause := entry.2.clause escape entry.1 type (primaryKey == some entry.1)
    match entry.2.foreignKey with
    | none => .ok (clause, none)
    | some reference =>
      (ForeignKey.ofReference entry.1 reference).map fun key => (clause, some key)

def Table.clauses (escape : Escaper) (name : String) (t : Table) :
    Except SchemaError (List String) := do
  let compiled ← t.columns.mapM (compileColumn escape t.primaryKey)
  let keys := compiled.filterMap Prod.snd
  return compiled.map Prod.fst ++ (t.primaryKey.map (primaryKeyClause escape)).toList
    ++ keys.map (ForeignKey.clause escape name)

/-- The statement that creates a table with some clauses unless it exists. -/
def createStatement (escape : Escaper) (name : String) (clauses : List String) : String :=
  "CREATE TABLE IF NOT EXISTS `" ++ escape name ++ "` (" ++ joined ", " clauses ++ ");"

def Registry.compile (escape : Escaper) (r : Registry) (name : String) :
    Except SchemaError String := do
  let table ← r.get name
  table.validate name
  return createStatement escape name (← table.clauses escape name)

def Registry.compileAll (escape : Escaper) (r : Registry) : Except SchemaError (List String) :=
  r.tableNames.mapM (r.compile escape)

end SqlSchema.Schema
