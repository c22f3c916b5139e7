import SqlSchema.Decode
import SqlSchema.Number.Shortest
import SqlSchema.Number.Word

/-! Columns as a schema describes them: a type, constraints, a default, and a reference to a column
of another table. Nothing in a description has been checked. -/

namespace SqlSchema.Schema

open SqlSchema.Decode

/-- A reference to a column of another table, exactly as it is described. -/
structure Reference where
  table : Option String := none
  column : Option String := none
  onDelete : Option String := none
  onUpdate : Option String := none
  deriving Repr, DecidableEq

/-- A default of a column: a truth value, a number, a string, or an expression to be taken as it
stands. -/
inductive DefaultValue
  | bool (b : Bool)
  | integer (n : Int64)
  | float (x : Number.Double)
  | text (s : String)
  | expression (sql : String)
  deriving Repr, DecidableEq

/-- The description of a column. Columns are nullable unless they say otherwise. -/
structure Column where
  type : Option String := none
  nullable : Bool := true
  unique : Bool := false
  autoIncrement : Bool := false
  default : Option DefaultValue := none
  foreignKey : Option Reference := none
  deriving Repr, DecidableEq

def Column.ofType (type : String) : Column :=
  { type := some type }

def Column.notNull (c : Column) : Column :=
  { c with nullable := false }

def Column.distinct (c : Column) : Column :=
  { c with unique := true }

def Column.numbered (c : Column) : Column :=
  { c with autoIncrement := true }

/-- The column with a default in place of the one that it may have. -/
def Column.withDefault (c : Column) (default : DefaultValue) : Column :=
  { c with default := some default }

/-- The column with a reference in place of the one that it may have. -/
def Column.referringTo (c : Column) (r : Reference) : Column :=
  { c with foreignKey := some r }

/-- A reference to a column of a table, without actions. -/
def Reference.to (table column : String) : Reference :=
  { table := some table, column := some column }

/-! ### Documents -/

def optionalText (s : Option String) : Json :=
  match s with
  | some s => .text s
  | none => .null

def Reference.toJson (r : Reference) : Json :=
  .object
    [("table", optionalText r.table), ("column", optionalText r.column),
     ("on_delete", optionalText r.onDelete), ("on_update", optionalText r.onUpdate)]

def Reference.ofJson : Decoder Reference :=
  record { title := "struct ForeignKeyDescriptor",
           fields := ["table", "column", "on_delete", "on_update"].map
             fun name => .of name (nullable Decode.text) }
    fun members => do
      let optional name := defaulted name none (nullable Decode.text) members
      return { table := ← optional "table", column := ← optional "column",
               onDelete := ← optional "on_delete", onUpdate := ← optional "on_update" }

def DefaultValue.toJson : DefaultValue → Json
  | .bool b => .bool b
  | .integer n => .integer n.toInt
  | .float x => .float x
  | .text s => .text s
  | .expression sql => .object [("expr", .text sql)]

/-- The default of a document: a whole number of 64 bits with a sign is an integer, any other number
a float, and an object is an expression. -/
def DefaultValue.ofJson : Decoder DefaultValue
  | .bool b => .ok (.bool b)
  | .integer n =>
    match Number.int64? n with
    | some word => .ok (.integer word)
    | none => .ok (.float (.ofInt n))
  | .float x => .ok (.float x)
  | .text s => .ok (.text s)
  | .object members =>
    match Keyed.get? "expr" members with
    | some (.text sql) => .ok (.expression sql)
    | _ => .error (.unmatched "DefaultValue")
  | _ => .error (.unmatched "DefaultValue")

def Column.toJson (c : Column) : Json :=
  .object
    [("type", optionalText c.type), ("nullable", .bool c.nullable), ("unique", .bool c.unique),
     ("auto_increment", .bool c.autoIncrement),
     ("default", (c.default.map DefaultValue.toJson).getD .null),
     ("foreign_key", (c.foreignKey.map Reference.toJson).getD .null)]

def Column.ofJson : Decoder Column :=
  record { title := "struct ColumnDescriptor",
           fields :=
             [.of "type" (Decode.nullable Decode.text), .of "nullable" Decode.bool,
              .of "unique" Decode.bool, .of "auto_increment" Decode.bool,
              .of "default" (Decode.nullable DefaultValue.ofJson),
              .of "foreign_key" (Decode.nullable Reference.ofJson)] }
    fun members => do
      let type ← defaulted "type" none (Decode.nullable Decode.text) members
      let isNullable ← defaulted "nullable" true Decode.bool members
      let unique ← defaulted "unique" false Decode.bool members
      let autoIncrement ← defaulted "auto_increment" false Decode.bool members
      let default ← defaulted "default" none (Decode.nullable DefaultValue.ofJson) members
      let foreignKey ← defaulted "foreign_key" none (Decode.nullable Reference.ofJson) members
      return { type := type, nullable := isNullable, unique := unique,
               autoIncrement := autoIncrement, default := default, foreignKey := foreignKey }

end SqlSchema.Schema
