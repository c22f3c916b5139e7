import SqlSchema.Keyed
import SqlSchema.Number.Shortest

/-! JSON documents. Members keep the order in which they were written, and whole numbers are kept
apart from numbers with a fraction or an exponent. -/

namespace SqlSchema

/-- A JSON document. `single` is a number held in 32 bits, which is written with the digits that
suffice for that width; reading a text never gives one. -/
inductive Json
  | null
  | bool (value : Bool)
  | integer (value : Int)
  | float (value : Number.Double)
  | single (value : Number.Single)
  | text (value : String)
  | list (items : List Json)
  | object (members : List (String × Json))
  deriving Inhabited, Repr

namespace Json

def member? (name : String) : Json → Option Json
  | .object members => Keyed.get? name members
  | _ => none

end Json

end SqlSchema
