import SqlSchema.Value.Codec

/-! Values for the columns of one row: pairs in order, one for each column. -/

namespace SqlSchema

/-- Values under the names of their columns. -/
structure Values where
  pairs : List (String × Value) := []
  deriving Repr

namespace Values

def empty : Values := {}

/-- Sets the value of a column: in place if the column has one, behind the others if not. -/
def set (vs : Values) (column : String) (value : Value) : Values :=
  ⟨Keyed.put column value vs.pairs⟩

def ofList (pairs : List (String × Value)) : Values :=
  ⟨Keyed.putAll pairs []⟩

def columns (vs : Values) : List String :=
  Keyed.names vs.pairs

def size (vs : Values) : Nat :=
  vs.pairs.length

end Values

end SqlSchema
