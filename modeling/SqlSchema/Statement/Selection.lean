import SqlSchema.Decode
import SqlSchema.Schema.Column

/-! What a selection asks for: columns, a condition, a grouping, an order and a limit, each of which
may be left out. -/

namespace SqlSchema

open SqlSchema.Decode

/-- The parts of a selection. The condition, the grouping and the order are fragments of SQL. -/
structure Selection where
  columns : Option (List String) := none
  condition : Option String := none
  grouping : Option String := none
  order : Option String := none
  limit : Option UInt64 := none
  deriving Repr, DecidableEq

namespace Selection

def everything : Selection := {}

inductive Part
  | columns (names : List String)
  | condition (sql : String)
  | grouping (sql : String)
  | order (sql : String)
  | limit (count : UInt64)
  deriving Repr, DecidableEq

/-- The selection with a part in place of the one of its kind. -/
def withPart (s : Selection) : Part → Selection
  | .columns names => { s with columns := some names }
  | .condition sql => { s with condition := some sql }
  | .grouping sql => { s with grouping := some sql }
  | .order sql => { s with order := some sql }
  | .limit count => { s with limit := some count }

/-- The selection of some parts, of which the last of each kind counts. -/
def ofParts (parts : List Part) : Selection :=
  parts.foldl withPart everything

def optionalNames (names : Option (List String)) : Json :=
  match names with
  | some names => .list (names.map .text)
  | none => .null

def optionalLimit (limit : Option UInt64) : Json :=
  match limit with
  | some n => .integer n.toNat
  | none => .null

def toJson (s : Selection) : Json :=
  .object
    [("columns", optionalNames s.columns), ("where", Schema.optionalText s.condition),
     ("group_by", Schema.optionalText s.grouping), ("order_by", Schema.optionalText s.order),
     ("limit", optionalLimit s.limit)]

def limitOfJson : Decoder UInt64 :=
  fun doc => (natural 64 "u64" doc).map UInt64.ofNat

def ofJson : Decoder Selection :=
  record { title := "struct SelectParams",
           fields :=
             [.of "columns" (nullable (list Decode.text)), .of "where" (nullable Decode.text),
              .of "group_by" (nullable Decode.text), .of "order_by" (nullable Decode.text),
              .of "limit" (nullable limitOfJson)] }
    fun members => do
      let fragment name := defaulted name none (nullable Decode.text) members
      let columns ← defaulted "columns" none (nullable (list Decode.text)) members
      let condition ← fragment "where"
      let grouping ← fragment "group_by"
      let order ← fragment "order_by"
      let limit ← defaulted "limit" none (nullable limitOfJson) members
      return { columns := columns, condition := condition, grouping := grouping, order := order,
               limit := limit }

end Selection

end SqlSchema
