import SqlSchema.Value.Codec

/-! Rows of results. A cell knows the column it belongs to. -/

namespace SqlSchema

open SqlSchema.Decode

/-- A column of a result: its name, the name of its type, and its place from zero. -/
structure ColumnInfo where
  name : String
  typeName : String
  ordinal : Nat
  deriving Repr, DecidableEq

structure Cell where
  value : Value
  columnIndex : Nat
  deriving Inhabited, Repr

structure Row where
  cells : List Cell
  deriving Inhabited, Repr

namespace Row

/-- The row of some values, whose columns are numbered from zero. -/
def ofValues (values : List Value) : Row :=
  ⟨values.zipIdx.map fun entry => ⟨entry.1, entry.2⟩⟩

def value? (r : Row) (index : Nat) : Option Value :=
  r.cells[index]?.map Cell.value

end Row

def Cell.toJson (c : Cell) : Json :=
  .object [("value", c.value.toJson), ("column_index", .integer c.columnIndex)]

def Cell.ofJson : Decoder Cell :=
  record { title := "struct Cell",
           fields := [.of "value" Value.ofJson, .of "column_index" (natural 64 "usize")] }
    fun members => do
      let value ← required "value" Value.ofJson members
      let columnIndex ← required "column_index" (natural 64 "usize") members
      return ⟨value, columnIndex⟩

def Row.toJson (r : Row) : Json :=
  .object [("cells", .list (r.cells.map Cell.toJson))]

def Row.ofJson : Decoder Row :=
  record { title := "struct Row", fields := [.of "cells" (list Cell.ofJson)] }
    fun members => return ⟨← required "cells" (list Cell.ofJson) members⟩

end SqlSchema
