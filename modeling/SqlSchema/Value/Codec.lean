import SqlSchema.Decode
import SqlSchema.Value

/-! Values as documents: an object of the kind, under `type`, and the content, under `value`; a null
has no content. Reading also takes the two as a list, where the kind must be a string, and the kind
before the content wherever it stands. -/

namespace SqlSchema.Value

open SqlSchema.Decode

def tagged (kind : String) (content : Json) : Json :=
  .object [("type", .text kind), ("value", content)]

def toJson : Value → Json
  | .null => .object [("type", .text "Null")]
  | .bool b => tagged "Bool" (.bool b)
  | .int16 n => tagged "Int16" (.integer n.toInt)
  | .int32 n => tagged "Int32" (.integer n.toInt)
  | .int64 n => tagged "Int64" (.integer n.toInt)
  | .uint64 n => tagged "UInt64" (.integer n.toNat)
  | .float32 x => tagged "Float32" (.single x)
  | .float64 x => tagged "Float64" (.float x)
  | .text s => tagged "Text" (.text s)
  | .bytes data => tagged "Bytes" (.list (data.map fun b => .integer b.toNat))
  | .date d => tagged "Date" (.text d.text)
  | .time t => tagged "Time" (.text t.text)
  | .dateTime m => tagged "DateTime" (.text m.documentText)
  | .dateTimeTz m => tagged "DateTimeTz" (.text m.universalText)
  | .decimal d => tagged "Decimal" (.text d.text)
  | .uuid u => tagged "Uuid" (.text u.text)
  | .json doc => tagged "Json" doc
  | .other typeName display =>
    tagged "Other" (.object [("type_name", .text typeName), ("display", .text display)])

/-- A decimal number: a string, or a number by its positional digits. -/
def decimalOfJson : Decoder Decimal := fun doc =>
  let expected := "a Decimal type representing a fixed-point number"
  let found? : Option (Option Decimal) := match doc with
    | .text s => some (Decimal.ofText? s)
    | .integer n => some (Decimal.ofInt? n)
    | .float x => some (Decimal.ofText? x.positional)
    | _ => none
  match found? with
  | some (some d) => .ok d
  | some none => .error (.wrongValue doc expected)
  | none => .error (.wrongType doc expected)

/-- The name of a type and a text for display, as an object only. -/
def otherOfJson : Decoder Value
  | .object members =>
    recordOfMembers ⟨"struct variant Value::Other",
        [.of "type_name" Decode.text, .of "display" Decode.text], fun _ => ""⟩
      (fun members => do
        let typeName ← required "type_name" Decode.text members
        let display ← required "display" Decode.text members
        return .other typeName display)
      members
  | doc => .error (.wrongType doc "struct variant Value::Other")

/-- No content, or a null for it. -/
def nullOfContent : Option Json → Except DecodeError Value
  | none => .ok .null
  | some .null => .ok .null
  | some doc => .error (.wrongType doc "unit variant Value::Null")

/-- A content that must be present, as a decoder reads it. -/
def ofContent {α : Type} (toValue : α → Value) (decode : Decoder α) :
    Option Json → Except DecodeError Value
  | none => .error (.missingField "value")
  | some doc => (decode doc).map toValue

def kinds : List (String × (Option Json → Except DecodeError Value)) :=
  [("Null", nullOfContent),
   ("Bool", ofContent .bool Decode.bool),
   ("Int16", ofContent (fun n => .int16 (.ofInt n)) (signed 16 "i16")),
   ("Int32", ofContent (fun n => .int32 (.ofInt n)) (signed 32 "i32")),
   ("Int64", ofContent (fun n => .int64 (.ofInt n)) (signed 64 "i64")),
   ("UInt64", ofContent (fun n => .uint64 (.ofNat n)) (natural 64 "u64")),
   ("Float32", ofContent .float32 single),
   ("Float64", ofContent .float64 double),
   ("Text", ofContent .text Decode.text),
   ("Bytes", ofContent (fun ns => .bytes (ns.map UInt8.ofNat)) (list (natural 8 "u8"))),
   ("Date", ofContent .date (temporal "a formatted date string" (Temporal.Date.read .loose))),
   ("Time", ofContent .time (temporal "a formatted time string" Temporal.Time.read)),
   ("DateTime", ofContent .dateTime
     (temporal "a formatted date and time string" Temporal.DateTime.read)),
   ("DateTimeTz", ofContent .dateTimeTz
     (temporal "an RFC 3339 formatted date and time string" Temporal.DateTime.readZoned)),
   ("Decimal", ofContent .decimal decimalOfJson),
   ("Uuid", ofContent .uuid Decode.uuid),
   ("Json", ofContent .json .ok),
   ("Other", ofContent id otherOfJson)]

def title : String := "adjacently tagged enum Value"

def ofJson : Decoder Value
  | .object members => do
    let read ← required "type" (choice false kinds) members
    read (Keyed.get? "value" members)
  | .list [] => .error (.wrongLength 0 title)
  | .list [kind] => do
    let _ ← variant kinds kind
    throw (.wrongLength 1 title)
  | .list (kind :: content :: rest) => do
    let read ← variant kinds kind
    let value ← read (some content)
    if !rest.isEmpty then throw (.wrongLength (rest.length + 2) "fewer elements in array")
    return value
  | doc => .error (.wrongType doc title)

end SqlSchema.Value
