import SqlSchema.Schema.Column
import SqlSchema.Schema.Error
import SqlSchema.Text.Blank
import SqlSchema.Text.Case

/-! Foreign keys. A reference becomes one when it names a table and a column and its actions are
known ones. -/

namespace SqlSchema.Schema

open SqlSchema.Text

/-- What happens to the rows that refer to a row when that row changes. -/
inductive ReferentialAction
  | cascade
  | restrict
  | noAction
  | setDefault
  | setNull
  deriving Repr, DecidableEq

namespace ReferentialAction

def all : List ReferentialAction := [.cascade, .restrict, .noAction, .setDefault, .setNull]

def sql : ReferentialAction → String
  | .cascade => "CASCADE"
  | .restrict => "RESTRICT"
  | .noAction => "NO ACTION"
  | .setDefault => "SET DEFAULT"
  | .setNull => "SET NULL"

def name : ReferentialAction → String
  | .cascade => "cascade"
  | .restrict => "restrict"
  | .noAction => "no_action"
  | .setDefault => "set_default"
  | .setNull => "set_null"

/-- A text in lower case, underscores standing for spaces. -/
def spelling (s : String) : String :=
  String.ofList ((lower s).toList.map fun c => if c == '_' then ' ' else c)

def ofText? (s : String) : Option ReferentialAction :=
  match spelling s with
  | "cascade" => some .cascade
  | "restrict" => some .restrict
  | "no action" => some .noAction
  | "set default" => some .setDefault
  | "set null" => some .setNull
  | _ => none

def toJson (a : ReferentialAction) : Json :=
  .text a.name

def ofJson : Decoder ReferentialAction :=
  Decode.choice false (all.map fun a => (a.name, a))

end ReferentialAction

/-- A foreign key: the column that has it, the column it refers to, and its actions. -/
structure ForeignKey where
  localColumn : String
  table : String
  column : String
  onDelete : Option ReferentialAction
  onUpdate : Option ReferentialAction
  deriving Repr, DecidableEq

namespace ForeignKey

def validActions : String := "cascade, restrict, no action, set default, set null"

/-- A name without the blanks around it, which must not be blank. -/
def requiredName (localColumn field : String) (given : Option String) :
    Except SchemaError String :=
  match given with
  | some name =>
    if isBlank name then .error (.missingField localColumn field) else .ok (trim name)
  | none => .error (.missingField localColumn field)

def optionalAction (localColumn field : String) (given : Option String) :
    Except SchemaError (Option ReferentialAction) :=
  match given with
  | none => .ok none
  | some raw =>
    match ReferentialAction.ofText? (trim raw) with
    | some action => .ok (some action)
    | none => .error (.invalidAction localColumn field raw validActions)

/-- The foreign key of a column by its reference. The table is looked at first, then the column, the
action on deletion and the action on update. -/
def ofReference (localColumn : String) (r : Reference) : Except SchemaError ForeignKey := do
  let table ← requiredName localColumn "table" r.table
  let column ← requiredName localColumn "column" r.column
  let onDelete ← optionalAction localColumn "on_delete" r.onDelete
  let onUpdate ← optionalAction localColumn "on_update" r.onUpdate
  return ⟨localColumn, table, column, onDelete, onUpdate⟩

end ForeignKey

end SqlSchema.Schema
