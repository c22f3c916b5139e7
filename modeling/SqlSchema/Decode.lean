import SqlSchema.Json.Writer
import SqlSchema.Number.Power
import SqlSchema.Temporal.Reader
import SqlSchema.Text.Quoted
import SqlSchema.Uuid

/-! Decoding of documents into the types of the library. A decoder either gives a value or says
what it found and what it expected. A record is written as an object, whose members may stand in
any order and of which unknown ones are ignored, or as a list of its fields in order, of which
those with a default may be left out at the end. -/

namespace SqlSchema

open SqlSchema.Text

/-- Why a document was refused. -/
inductive DecodeError
  | wrongType (found : Json) (expected : String)
  | wrongValue (found : Json) (expected : String)
  | wrongLength (count : Nat) (expected : String)
  | missingField (name : String)
  | unknownVariant (name : String) (known : List String)
  | unmatched (type : String)
  | malformedTime (cause : Temporal.Fault)
  | malformedIdentifier (cause : Uuid.Fault)
  deriving Repr

namespace Json

/-- A document named by its kind, scalars with their value. -/
def description : Json → String
  | .null => "null"
  | .bool b => s!"boolean `{b}`"
  | .integer n => s!"integer `{n}`"
  | .float x => s!"floating point `{floatText doubleRange x}`"
  | .single x => s!"floating point `{floatText singleRange x}`"
  | .text s => s!"string {quoted s}"
  | .list _ => "sequence"
  | .object _ => "map"

end Json

/-- The alternatives of a choice: two joined by `or`, several listed. -/
def alternatives : List String → String
  | [one] => s!"`{one}`"
  | [one, other] => s!"`{one}` or `{other}`"
  | all => "one of " ++ String.intercalate ", " (all.map fun name => s!"`{name}`")

def DecodeError.message : DecodeError → String
  | .wrongType found expected => s!"invalid type: {found.description}, expected {expected}"
  | .wrongValue found expected => s!"invalid value: {found.description}, expected {expected}"
  | .wrongLength count expected => s!"invalid length {count}, expected {expected}"
  | .missingField name => s!"missing field `{name}`"
  | .unknownVariant name known => s!"unknown variant `{name}`, expected {alternatives known}"
  | .unmatched type => s!"data did not match any variant of untagged enum {type}"
  | .malformedTime cause => cause.message
  | .malformedIdentifier cause => s!"UUID parsing failed: {cause.message}"

/-- A reading of documents as values of a type. -/
abbrev Decoder (α : Type) := Json → Except DecodeError α

namespace Decode

def bool : Decoder Bool
  | .bool b => .ok b
  | doc => .error (.wrongType doc "a boolean")

def text : Decoder String
  | .text s => .ok s
  | doc => .error (.wrongType doc "a string")

/-- A whole number between bounds; a number with a fraction or an exponent is refused. -/
def integer (least greatest : Int) (expected : String) : Decoder Int
  | .integer n =>
    if least ≤ n ∧ n ≤ greatest then .ok n else .error (.wrongValue (.integer n) expected)
  | doc => .error (.wrongType doc expected)

def natural (bits : Nat) (expected : String) : Decoder Nat :=
  fun doc => (integer 0 ((Number.powerOfTwo bits : Int) - 1) expected doc).map Int.toNat

def signed (bits : Nat) (expected : String) : Decoder Int :=
  let half : Int := Number.powerOfTwo (bits - 1)
  integer (-half) (half - 1) expected

/-- A number in binary floating point; whole numbers are rounded to the nearest. -/
def double : Decoder Number.Double
  | .integer n => .ok (.ofInt n)
  | .float x => .ok x
  | doc => .error (.wrongType doc "f64")

def single : Decoder Number.Single
  | .integer n => .ok (.ofInt n)
  | .float x => .ok x.convert
  | doc => .error (.wrongType doc "f32")

def nullable {α : Type} (decode : Decoder α) : Decoder (Option α)
  | .null => .ok none
  | doc => (decode doc).map some

/-- The items of a list, up to the first that is refused. -/
def list {α : Type} (decode : Decoder α) : Decoder (List α)
  | .list items => items.mapM decode
  | doc => .error (.wrongType doc "a sequence")

/-- A null, standing for a choice without content. `emptyObject` says whether an object without
members does as well. -/
def unit (emptyObject : Bool) : Decoder Unit
  | .null => .ok ()
  | .object [] => if emptyObject then .ok () else .error (.wrongType (.object []) "unit")
  | doc => .error (.wrongType doc "unit")

def named {α : Type} (known : List (String × α)) (name : String) : Except DecodeError α :=
  match Keyed.get? name known with
  | some value => .ok value
  | none => .error (.unknownVariant name (Keyed.names known))

/-- One of several named values, by the name alone. -/
def variant {α : Type} (known : List (String × α)) : Decoder α
  | .text name => named known name
  | doc => .error (.wrongType doc "variant identifier")

/-- One of several named values: by the name, or by an object with that single member and no
content. -/
def choice {α : Type} (emptyObject : Bool) (known : List (String × α)) : Decoder α
  | .text name => named known name
  | .object [(name, content)] => do
    let value ← named known name
    unit emptyObject content
    return value
  | .object members => .error (.wrongValue (.object members) "map with a single key")
  | doc => .error (.wrongType doc "string or map")

/-! ### Records -/

/-- A field of a record: its name, and the check that its document must pass. -/
structure Field where
  name : String
  check : Json → Except DecodeError Unit

def Field.of {α : Type} (name : String) (decode : Decoder α) : Field :=
  ⟨name, fun doc => (decode doc).map fun _ => ()⟩

/-- The members that are fields must pass, from the first on. -/
def checkMembers (fields : List Field) : List (String × Json) → Except DecodeError Unit
  | [] => .ok ()
  | (name, doc) :: rest => do
    match fields.find? (·.name == name) with
    | some field => field.check doc
    | none => pure ()
    checkMembers fields rest

def required {α : Type} (name : String) (decode : Decoder α) (members : List (String × Json)) :
    Except DecodeError α :=
  match Keyed.get? name members with
  | some doc => decode doc
  | none => .error (.missingField name)

def defaulted {α : Type} (name : String) (default : α) (decode : Decoder α)
    (members : List (String × Json)) : Except DecodeError α :=
  match Keyed.get? name members with
  | some doc => decode doc
  | none => .ok default

/-- What a record is called in errors, its fields in order, and what is said when a list holds more
items than there are fields. -/
structure RecordForm where
  title : String
  fields : List Field
  surplus : Nat → String := fun _ => "fewer elements in array"

def elements (n : Nat) : String :=
  if n = 1 then "1 element" else s!"{n} elements"

/-- An error inside a list, where a field that is missing means that the list ends before its
place. -/
def inList (form : RecordForm) : DecodeError → DecodeError
  | .missingField name =>
    .wrongLength (form.fields.findIdx (·.name == name))
      s!"{form.title} with {elements form.fields.length}"
  | e => e

def recordOfMembers {α : Type} (form : RecordForm)
    (build : List (String × Json) → Except DecodeError α) (members : List (String × Json)) :
    Except DecodeError α := do
  checkMembers form.fields members
  build members

def recordOfItems {α : Type} (form : RecordForm)
    (build : List (String × Json) → Except DecodeError α) (items : List Json) :
    Except DecodeError α := do
  let members := (form.fields.map Field.name).zip items
  checkMembers form.fields members
  let value ← (build members).mapError (inList form)
  if form.fields.length < items.length then
    throw (.wrongLength items.length (form.surplus form.fields.length))
  return value

/-- A record from an object or from a list. -/
def record {α : Type} (form : RecordForm)
    (build : List (String × Json) → Except DecodeError α) : Decoder α
  | .object members => recordOfMembers form build members
  | .list items => recordOfItems form build items
  | doc => .error (.wrongType doc form.title)

/-! ### Leaves -/

def uuid : Decoder Uuid
  | .text s => (Uuid.ofText s).mapError .malformedIdentifier
  | doc => .error (.wrongType doc "a formatted UUID string")

def temporal {α : Type} (expected : String) (read : String → Except Temporal.Fault α) : Decoder α
  | .text s => (read s).mapError .malformedTime
  | doc => .error (.wrongType doc expected)

end Decode

end SqlSchema
