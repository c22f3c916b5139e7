import SqlSchema.Proofs.Decimal
import SqlSchema.Proofs.Decode
import SqlSchema.Proofs.Temporal.RoundTrip
import SqlSchema.Proofs.Uuid
import SqlSchema.Row

/-! # Values and rows as documents

The document of a value is read as that value, whatever its kind, numbers in binary floating point
apart; the one thing lost is the sign of a decimal zero. Where the kind and the content stand in a
document does not matter, nor what else does. -/

namespace SqlSchema

open SqlSchema.Decode SqlSchema.Number

namespace Value

def isFloat : Value → Bool
  | .float32 _ | .float64 _ => true
  | _ => false

def withoutZeroSign : Value → Value
  | .decimal d => .decimal d.withoutZeroSign
  | v => v

theorem withoutZeroSign_eq_iff (v : Value) :
    v.withoutZeroSign = v ↔ ∀ d, v = .decimal d → d.coefficient = 0 → d.negative = false := by
  cases v with
  | decimal d =>
      simp only [withoutZeroSign, decimal.injEq, Decimal.withoutZeroSign_eq_iff, not_and]
      constructor
      · rintro h _ rfl hzero
        exact Bool.eq_false_iff.mpr fun hnegative => h hnegative hzero
      · rintro h hnegative hzero
        rw [h d rfl hzero] at hnegative
        cases hnegative
  | _ => simp [withoutZeroSign]

theorem ofJson_tagged (kind : String) {read : Option Json → Except DecodeError Value}
    (hkind : Keyed.get? kind kinds = some read) (content : Json) :
    ofJson (tagged kind content) = read (some content) := by
  have hchoice : choice false kinds (.text kind) = .ok read := by
    rw [choice, named, hkind]
  simp only [ofJson, tagged, required, Keyed.get?, if_true, hchoice, bind, Except.bind]
  rfl

theorem ofContent_of_ok {α : Type} {toValue : α → Value} {decode : Decoder α} {content : Json}
    {a : α} (h : decode content = .ok a) :
    ofContent toValue decode (some content) = .ok (toValue a) := by
  rw [ofContent, h]
  rfl

theorem decimalOfJson_text (d : Decimal) :
    decimalOfJson (.text d.text) = .ok d.withoutZeroSign := by
  simp only [decimalOfJson, d.ofText?_text]

/-- A value is read back, a decimal zero without its sign. -/
theorem ofJson_toJson {v : Value} (hfloat : v.isFloat = false) :
    ofJson v.toJson = .ok v.withoutZeroSign := by
  cases v with
  | null => rfl
  | bool b => exact ofJson_tagged "Bool" rfl (.bool b)
  | int16 n =>
      rw [toJson, ofJson_tagged "Int16" rfl,
        ofContent_of_ok (signed_of_bounds n.le_toInt n.toInt_lt "i16"), Int16.ofInt_toInt]
      rfl
  | int32 n =>
      rw [toJson, ofJson_tagged "Int32" rfl,
        ofContent_of_ok (signed_of_bounds n.le_toInt n.toInt_lt "i32"), Int32.ofInt_toInt]
      rfl
  | int64 n =>
      rw [toJson, ofJson_tagged "Int64" rfl,
        ofContent_of_ok (signed_of_bounds n.le_toInt n.toInt_lt "i64"), Int64.ofInt_toInt]
      rfl
  | uint64 n =>
      rw [toJson, ofJson_tagged "UInt64" rfl,
        ofContent_of_ok (natural_of_lt n.toNat_lt "u64"), UInt64.ofNat_toNat]
      rfl
  | float32 x => cases hfloat
  | float64 x => cases hfloat
  | text s => exact ofJson_tagged "Text" rfl (.text s)
  | bytes data =>
      rw [toJson, ofJson_tagged "Bytes" rfl,
        ofContent_of_ok (list_map fun b _ => natural_of_lt b.toNat_lt "u8")]
      simp [withoutZeroSign, Function.comp_def]
  | date d =>
      rw [toJson, ofJson_tagged "Date" rfl, ofContent_of_ok (temporal_of_ok (d.read_text .loose) _)]
      rfl
  | time t =>
      rw [toJson, ofJson_tagged "Time" rfl, ofContent_of_ok (temporal_of_ok t.read_text _)]
      rfl
  | dateTime m =>
      rw [toJson, ofJson_tagged "DateTime" rfl,
        ofContent_of_ok (temporal_of_ok m.read_documentText _)]
      rfl
  | dateTimeTz m =>
      rw [toJson, ofJson_tagged "DateTimeTz" rfl,
        ofContent_of_ok (temporal_of_ok m.readZoned_universalText _)]
      rfl
  | decimal d =>
      rw [toJson, ofJson_tagged "Decimal" rfl, ofContent_of_ok (decimalOfJson_text d)]
      rfl
  | uuid u =>
      rw [toJson, ofJson_tagged "Uuid" rfl, ofContent_of_ok (uuid_text u)]
      rfl
  | json doc => exact ofJson_tagged "Json" rfl doc
  | other typeName display => exact ofJson_tagged "Other" rfl _

/-- A decoded zero with a sign is read back as another value, without it. -/
theorem ofJson_toJson_negativeZero :
    ∃ v, ofJson (tagged "Decimal" (.text "-0.1e-28")) = .ok v ∧ v.isFloat = false
      ∧ ofJson v.toJson ≠ .ok v := by
  refine ⟨.decimal { negative := true, coefficient := 0, scale := 28 }, rfl, rfl, ?_⟩
  rw [ofJson_toJson rfl]
  intro h
  injection h with h
  injection h with h
  have hsign := congrArg Decimal.negative h
  cases hsign

/-- What a document is read as depends neither on the order of its members nor on members other
than the kind and the content. -/
theorem ofJson_object_eq_of_rearranges {members members' : List (String × Json)}
    (h : Keyed.Rearranges ["type", "value"] members members') :
    ofJson (.object members') = ofJson (.object members) := by
  rw [ofJson, ofJson, required, required, h.get?_eq (by decide), h.get?_eq (by decide)]

end Value

/-! ## Rows -/

def Row.withoutZeroSigns (r : Row) : Row :=
  ⟨r.cells.map fun c => { c with value := c.value.withoutZeroSign }⟩

theorem Cell.ofJson_toJson {c : Cell} (hfloat : c.value.isFloat = false)
    (hindex : c.columnIndex < powerOfTwo 64) :
    Cell.ofJson c.toJson = .ok { c with value := c.value.withoutZeroSign } := by
  simp [Cell.ofJson, Cell.toJson, record, recordOfMembers, checkMembers, Field.of, required,
    Keyed.get?, Value.ofJson_toJson hfloat, natural_of_lt hindex, bind, Except.bind, Except.map,
    pure, Except.pure]

/-- A row is read back, whatever its length and its columns. -/
theorem Row.ofJson_toJson {r : Row} (hfloat : ∀ c ∈ r.cells, c.value.isFloat = false)
    (hindex : ∀ c ∈ r.cells, c.columnIndex < powerOfTwo 64) :
    Row.ofJson r.toJson = .ok r.withoutZeroSigns := by
  have hcells := list_map fun c hc => Cell.ofJson_toJson (hfloat c hc) (hindex c hc)
  simp [Row.ofJson, Row.toJson, record, recordOfMembers, checkMembers, Field.of, required,
    Keyed.get?, hcells, bind, Except.bind, Except.map, pure, Except.pure, withoutZeroSigns]

/-- Values other than numbers in binary floating point are read back from their documents, and rows
of them, exactly so but for the sign of a decimal zero. A document that is read as a value is read
as the same one with its members in another order and with members under other names. -/
theorem Row.documents_readBack :
    (∀ v : Value, v.isFloat = false →
        Value.ofJson v.toJson = .ok v.withoutZeroSign
          ∧ (v.withoutZeroSign = v ↔
              ∀ d, v = .decimal d → d.coefficient = 0 → d.negative = false))
      ∧ (∀ r : Row, (∀ c ∈ r.cells, c.value.isFloat = false) →
          (∀ c ∈ r.cells, c.columnIndex < powerOfTwo 64) →
          Row.ofJson r.toJson = .ok r.withoutZeroSigns)
      ∧ ∀ (members members' : List (String × Json)) (v : Value),
          Keyed.Rearranges ["type", "value"] members members' →
          Value.ofJson (.object members) = .ok v → Value.ofJson (.object members') = .ok v := by
  refine ⟨?_, ?_, ?_⟩
  · intro v hfloat
    exact ⟨Value.ofJson_toJson hfloat, v.withoutZeroSign_eq_iff⟩
  · intro r hfloat hindex
    exact Row.ofJson_toJson hfloat hindex
  · intro members members' v h hread
    rw [Value.ofJson_object_eq_of_rearranges h, hread]

/-- A price in a row is read back, and so is its document with the content first and a remark. -/
theorem Row.documents_readBack_price :
    let price : Value := .decimal { negative := true, coefficient := 150, scale := 2 }
    Row.ofJson (Row.toJson ⟨[⟨price, 3⟩, ⟨.null, 7⟩]⟩) = .ok ⟨[⟨price, 3⟩, ⟨.null, 7⟩]⟩
      ∧ Value.ofJson price.toJson = .ok price
      ∧ Value.ofJson (.object
          [("value", .text "-1.50"), ("remark", .null), ("type", .text "Decimal")]) =
          .ok price := by
  obtain ⟨hvalues, hrows, horders⟩ := Row.documents_readBack
  refine ⟨?_, ?_, ?_⟩
  · exact hrows ⟨[⟨.decimal { negative := true, coefficient := 150, scale := 2 }, 3⟩, ⟨.null, 7⟩]⟩
      (by simp [Value.isFloat]) (by simp [powerOfTwo])
  · exact (hvalues (.decimal { negative := true, coefficient := 150, scale := 2 }) rfl).1
  · exact horders [("type", .text "Decimal"), ("value", .text "-1.50")] _ _
      ⟨by decide, [("remark", .null)], List.perm_append_singleton _ [_, _], by decide⟩ rfl

end SqlSchema
