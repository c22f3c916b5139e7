import SqlSchema.Schema.Table
import SqlSchema.Text.Utf8

/-! Schemas: tables under their names, in the order in which they were registered. -/

namespace SqlSchema.Schema

structure Registry where
  tables : List (String × Table) := []
  deriving Repr, DecidableEq

namespace Registry

def empty : Registry := {}

/-- Registers a table that is valid: in place of the one under its name if there is one, behind the
others if not. -/
def withTable (r : Registry) (name : String) (table : Table) : Except SchemaError Registry := do
  table.validate name
  return { tables := Keyed.put name table r.tables }

def tableNames (r : Registry) : List String :=
  Keyed.names r.tables

def contains (r : Registry) (name : String) : Bool :=
  Keyed.contains name r.tables

def get (r : Registry) (name : String) : Except SchemaError Table :=
  match Keyed.get? name r.tables with
  | some table => .ok table
  | none => .error (.unknownTable name)

def size (r : Registry) : Nat :=
  r.tables.length

def readMember (member : String × Json) : Except SchemaError (String × Table) :=
  (Table.ofJson member.1 member.2).map (member.1, ·)

/-- The schema of a document. The names of a document are distinct, so its members are the tables in
order. -/
def ofJson : Json → Except SchemaError Registry
  | .object members => (members.mapM readMember).map Registry.mk
  | _ => .error (.invalidConfig .rootNotObject)

def ofText (s : String) : Except SchemaError Registry :=
  match Json.parse s with
  | .ok doc => ofJson doc
  | .error cause => .error (.invalidConfig (.malformed cause))

/-- The schema that the file at a path of a directory spells. A file that cannot be read, or whose
bytes are not text, gives an error of its own. -/
def ofPath (d : Directory) (path : String) : Except SchemaError Registry :=
  match d.read path with
  | .error cause => .error (.invalidConfig (.unreadable path cause))
  | .ok bytes =>
    match Text.utf8Decode bytes with
    | .ok s => ofText s
    | .error _ => .error (.invalidConfig (.unreadable path .notText))

end Registry

end SqlSchema.Schema
