import SqlSchema.Schema.Column
import SqlSchema.Schema.Error

/-! Tables: columns under their names, in order, and a primary key. -/

namespace SqlSchema.Schema

/-- The description of a table. -/
structure Table where
  columns : List (String × Column) := []
  primaryKey : Option String := none
  deriving Repr, DecidableEq

namespace Table

def empty : Table := {}

/-- Sets the column under a name: in place if there is one, behind the others if not. -/
def withColumn (t : Table) (name : String) (column : Column) : Table :=
  { t with columns := Keyed.put name column t.columns }

def withPrimaryKey (t : Table) (column : String) : Table :=
  { t with primaryKey := some column }

def column? (t : Table) (name : String) : Option Column :=
  Keyed.get? name t.columns

/-- The primary key, if there is one, must be a column. -/
def validate (t : Table) (name : String) : Except SchemaError Unit :=
  match t.primaryKey with
  | some key =>
    if (t.column? key).isSome then .ok () else .error (.unknownPrimaryKey name key)
  | none => .ok ()

/-- The member of a table document that names the primary key. -/
def primaryKeyMember : String := "primary_key"

def addMember (name : String) (t : Table) (member : String × Json) : Except SchemaError Table :=
  if member.1 = primaryKeyMember then
    match member.2 with
    | .text key => .ok (t.withPrimaryKey key)
    | _ => .error (.invalidConfig (.primaryKeyNotName name))
  else
    match Column.ofJson member.2 with
    | .ok column => .ok (t.withColumn member.1 column)
    | .error cause => .error (.invalidConfig (.column name member.1 cause))

/-- The table of a document, under the name that errors give it. -/
def ofJson (name : String) : Json → Except SchemaError Table
  | .object members => do
    let t ← members.foldlM (addMember name) empty
    t.validate name
    return t
  | _ => .error (.invalidConfig (.tableNotObject name))

end Table

end SqlSchema.Schema
