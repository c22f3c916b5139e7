import SqlSchema.Decimal
import SqlSchema.Json.Writer
import SqlSchema.Temporal.Writer
import SqlSchema.Uuid

/-! Values: what statements hold and what result cells hold, whatever the backend. A value has a
literal text, and a literal in SQL, which puts that text through an escaping rule. -/

namespace SqlSchema

open SqlSchema.Text

/-- A value. A moment with a time zone is held in universal time; `other` is a value of a type that
has no place here, by the name of the type and a text for display. -/
inductive Value
  | null
  | bool (b : Bool)
  | int16 (n : Int16)
  | int32 (n : Int32)
  | int64 (n : Int64)
  | uint64 (n : UInt64)
  | float32 (x : Number.Single)
  | float64 (x : Number.Double)
  | text (s : String)
  | bytes (data : List UInt8)
  | date (d : Temporal.Date)
  | time (t : Temporal.Time)
  | dateTime (m : Temporal.DateTime)
  | dateTimeTz (m : Temporal.DateTime)
  | decimal (d : Decimal)
  | uuid (u : Uuid)
  | json (doc : Json)
  | other (typeName display : String)
  deriving Inhabited, Repr

namespace Value

def isNull : Value → Bool
  | .null => true
  | _ => false

def asText? : Value → Option String
  | .text s => some s
  | _ => none

/-- The literal text: digits for numbers and truth values, dates and times apart by a space, bytes
as hexadecimal digits. Nothing in it is escaped. -/
def literalText : Value → String
  | .null => "NULL"
  | .bool b => if b then "1" else "0"
  | .int16 n => toString n.toInt
  | .int32 n => toString n.toInt
  | .int64 n => toString n.toInt
  | .uint64 n => toString n.toNat
  | .float32 x => x.positional
  | .float64 x => x.positional
  | .text s => s
  | .bytes data => hexEncode data
  | .date d => d.text
  | .time t => t.text
  | .dateTime m => m.text
  | .dateTimeTz m => m.text
  | .decimal d => d.text
  | .uuid u => u.text
  | .json doc => doc.compact
  | .other _ display => display

/-- The literal in SQL: `NULL` bare, bytes as `X'…'`, and any other literal text escaped between
single quotes. -/
def sqlLiteral (escape : String → String) : Value → String
  | .null => "NULL"
  | .bytes data => s!"X'{hexEncode data}'"
  | v => s!"'{escape v.literalText}'"

def ofOption {α : Type} (toValue : α → Value) : Option α → Value
  | some a => toValue a
  | none => .null

end Value

end SqlSchema
