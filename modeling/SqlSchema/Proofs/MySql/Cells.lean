import SqlSchema.MySql.Decode
import SqlSchema.Proofs.Decimal
import SqlSchema.Proofs.Json.Completeness
import SqlSchema.Proofs.MySql.Payload
import SqlSchema.Proofs.Text.Utf8

/-! # Cells of the binary protocol

What a server sends for a cell, by the type of its column, and which cells are read as a value. -/

namespace SqlSchema.MySql

open Number Temporal Text

/-! ## What a server sends -/

/-- The codes of integer types, each with the number of bytes that it is sent in. -/
inductive IntegerWidth : Nat → Nat → Prop
  | tinyint : IntegerWidth 1 1
  | smallint : IntegerWidth 2 2
  | mediumint : IntegerWidth 9 4
  | int : IntegerWidth 3 4
  | bigint : IntegerWidth 8 8
  | year : IntegerWidth 13 2

/-- What a cell that is not null holds. -/
inductive Content
  | integer (n : Int)
  | bits (n : Nat)
  | decimal (n : Decimal.Numeral)
  | text (s : String)
  | bytes (data : List UInt8)
  | document (p : Json.Padded)
  | date (d : Day)
  | moment (d : Day) (c : Clock)
  | duration (negative : Bool) (days : Nat) (c : Clock)

/-- The deepest that a server lets containers of a document stand in one another. -/
def documentDepth : Nat := 100

/-- The codes of what is sent as it is and read as nothing in particular. -/
def IsOther (code : Nat) : Prop :=
  code ∉ [0, 1, 2, 3, 4, 5, 7, 8, 9, 10, 11, 12, 13, 245, 246, 248] ++ ColumnType.stringCodes

/-- What a server sends for a cell of a column. Fields of dates and times that are zero may be left
out at the end. -/
inductive Sends (t : ColumnType) : Content → List UInt8 → Prop
  | signed {width : Nat} {n : Int} (hwidth : IntegerWidth t.code width)
      (hsign : t.isUnsigned = false) (hlow : -powerOfTwo (8 * width) ≤ 2 * n)
      (hhigh : 2 * n < powerOfTwo (8 * width)) : Sends t (.integer n) (signedBytes width n)
  | unsigned {width n : Nat} (hwidth : IntegerWidth t.code width) (hsign : t.isUnsigned = true)
      (hlimit : n < powerOfTwo (8 * width)) : Sends t (.integer n) (toLittleEndian width n)
  | single {n : Nat} (hcode : t.code = 4) (hlimit : n < powerOfTwo 32) :
      Sends t (.bits n) (toLittleEndian 4 n)
  | double {n : Nat} (hcode : t.code = 5) (hlimit : n < powerOfTwo 64) :
      Sends t (.bits n) (toLittleEndian 8 n)
  | decimal {n : Decimal.Numeral} (hcode : t.code = 0 ∨ t.code = 246) :
      Sends t (.decimal n) (utf8Encode (String.ofList n.chars))
  | text {s : String} (hcode : t.code ∈ 248 :: ColumnType.stringCodes)
      (hbinary : t.isBinary = false) : Sends t (.text s) (utf8Encode s)
  | bytes {data : List UInt8} (hcode : t.code ∈ 248 :: ColumnType.stringCodes)
      (hbinary : t.isBinary = true) : Sends t (.bytes data) data
  | document {p : Json.Padded} (hcode : t.code = 245) (hp : Json.Spells documentDepth p.text) :
      Sends t (.document p) (utf8Encode (String.ofList p.chars))
  | noDate (hcode : t.code = 10) : Sends t (.date .zero) (counted [])
  | date {d : Day} (hcode : t.code = 10) : Sends t (.date d) (counted d.bytes)
  | noMoment (hcode : t.code = 7 ∨ t.code = 12) :
      Sends t (.moment .zero .midnight) (counted [])
  | startOfDay {d : Day} (hcode : t.code = 7 ∨ t.code = 12) :
      Sends t (.moment d .midnight) (counted d.bytes)
  | moment {d : Day} {c : Clock} {clock : List UInt8} (hcode : t.code = 7 ∨ t.code = 12)
      (hclock : c.Bytes clock) : Sends t (.moment d c) (counted (d.bytes ++ clock))
  | noDuration (hcode : t.code = 11) : Sends t (.duration false 0 .midnight) (counted [])
  | duration {negative : Bool} {days : Nat} {c : Clock} {clock : List UInt8}
      (hcode : t.code = 11) (hdays : days < powerOfTwo 32) (hclock : c.Bytes clock) :
      Sends t (.duration negative days c)
        (counted ((if negative then 1 else 0) :: toLittleEndian 4 days ++ clock))
  | other {data : List UInt8} (hcode : IsOther t.code) : Sends t (.bytes data) data

/-! ## What is read -/

/-- Contents for which there is no value: numbers that 96 bits do not hold, even rounded, days that
are in no calendar, and durations that are no time of day. -/
def Content.IsBeyond : Content → Prop
  | .decimal n => Decimal.coefficientLimit ≤ digitsValue 0 n.whole + Decimal.carry n.fraction
  | .date d | .moment d _ => ¬IsDate d.year d.month d.day
  | .duration negative days c => days ≠ 0 ∨ negative = true ∧ c ≠ .midnight
  | _ => False

/-- Types that are read as what their cells are not: years as integers of two bytes, sets and
enumerations of bytes as texts. -/
def IsMisread (t : ColumnType) : Prop :=
  t.code = 13 ∨ t.code = 248 ∨ t.code = 247 ∧ t.isBinary = true

instance (t : ColumnType) : Decidable (IsMisread t) :=
  inferInstanceAs (Decidable (_ ∨ _ ∨ _ ∧ _))

/-- The type of tiny integers that counts as that of truth values. -/
def IsTruth (t : ColumnType) : Prop :=
  t.code = 1 ∧ t.size = 1

instance (t : ColumnType) : Decidable (IsTruth t) :=
  inferInstanceAs (Decidable (_ ∧ _))

def integerOf? : Value → Option Int
  | .int16 n => some n.toInt
  | .int32 n => some n.toInt
  | .int64 n => some n.toInt
  | .uint64 n => some n.toNat
  | _ => none

/-! ## Integers -/

theorem decodeCell_of_read? {t : ColumnType} {payload : List UInt8} {v : Value}
    (h : read? t payload = some v) : decodeCell t (some payload) = v := by
  rw [decodeCell, h, Option.getD_some]

section Integers

variable {t : ColumnType} {payload : List UInt8}

theorem integerName_signed (h : t.isUnsigned = false) (name : String) :
    t.integerName name = name := by
  rw [ColumnType.integerName, h, if_neg Bool.false_ne_true]

theorem integerName_unsigned (h : t.isUnsigned = true) (name : String) :
    t.integerName name = name ++ " UNSIGNED" := by
  rw [ColumnType.integerName, h, if_pos rfl]

/-- A cell with a sign that its type reads and that the variant of the type holds. -/
theorem integerOf?_signed (wrap : Int → Value) {n : Int}
    (hread : read? t payload = (integer? t payload).map wrap)
    (hcode : t.code ∈ ColumnType.integerCodes) (hsign : t.isUnsigned = false)
    (hvalue : littleEndianSigned payload = n) (hwrap : integerOf? (wrap n) = some n) :
    integerOf? (decodeCell t (some payload)) = some n := by
  have hinteger : integer? t payload = some n := by
    rw [integer?, ColumnType.readsSigned, hsign, List.contains_iff_mem.mpr hcode, hvalue]
    rfl
  rw [hinteger, Option.map_some] at hread
  rw [decodeCell_of_read? hread, hwrap]

/-- A cell without a sign that its type reads and that the variant of the type holds. -/
theorem integerOf?_unsigned (wrap : Nat → Value) {n : Nat}
    (hread : read? t payload = (natural? t payload).map wrap)
    (hcode : t.code ∈ ColumnType.integerCodes) (hsign : t.isUnsigned = true)
    (hvalue : littleEndian payload = n) (hwrap : integerOf? (wrap n) = some (n : Int)) :
    integerOf? (decodeCell t (some payload)) = some (n : Int) := by
  have hnatural : natural? t payload = some n := by
    rw [natural?, ColumnType.readsUnsigned, hsign, List.contains_iff_mem.mpr hcode, hvalue]
    rfl
  rw [hnatural, Option.map_some] at hread
  rw [decodeCell_of_read? hread, hwrap]

end Integers

theorem IntegerWidth.mem_integerCodes {code width : Nat} (h : IntegerWidth code width)
    (hyear : code ≠ 13) : code ∈ ColumnType.integerCodes := by
  cases h with
  | year => exact absurd rfl hyear
  | _ => decide

theorem integerOf?_signedBytes {t : ColumnType} {width : Nat} {n : Int}
    (hwidth : IntegerWidth t.code width) (hsign : t.isUnsigned = false)
    (hlow : -powerOfTwo (8 * width) ≤ 2 * n) (hhigh : 2 * n < powerOfTwo (8 * width))
    (hyear : t.code ≠ 13) (htruth : ¬IsTruth t) :
    integerOf? (decodeCell t (some (signedBytes width n))) = some n := by
  have hvalue := littleEndianSigned_signedBytes hlow hhigh
  have hcode := hwidth.mem_integerCodes hyear
  obtain ⟨code, flags, size⟩ := t
  have hname := integerName_signed hsign
  cases hwidth with
  | tinyint =>
      have htiny : ColumnType.name ⟨1, flags, size⟩ = "TINYINT" :=
        (if_neg fun hsize => htruth ⟨rfl, hsize⟩).trans (hname _)
      refine integerOf?_signed (fun n => .int16 (.ofInt n)) (by rw [read?, htiny]; rfl)
        hcode hsign hvalue ?_
      rw [show powerOfTwo (8 * 1) = 256 from rfl] at hlow hhigh
      rw [integerOf?, Int16.toInt_ofInt_of_le (by omega) (by omega)]
  | smallint =>
      have hsmall : ColumnType.name ⟨2, flags, size⟩ = "SMALLINT" := hname _
      refine integerOf?_signed (fun n => .int16 (.ofInt n)) (by rw [read?, hsmall]; rfl)
        hcode hsign hvalue ?_
      rw [show powerOfTwo (8 * 2) = 65536 from rfl] at hlow hhigh
      rw [integerOf?, Int16.toInt_ofInt_of_le (by omega) (by omega)]
  | mediumint =>
      have hmedium : ColumnType.name ⟨9, flags, size⟩ = "MEDIUMINT" := hname _
      refine integerOf?_signed (fun n => .int32 (.ofInt n)) (by rw [read?, hmedium]; rfl)
        hcode hsign hvalue ?_
      rw [show powerOfTwo (8 * 4) = 4294967296 from rfl] at hlow hhigh
      rw [integerOf?, Int32.toInt_ofInt_of_le (by omega) (by omega)]
  | int =>
      have hint : ColumnType.name ⟨3, flags, size⟩ = "INT" := hname _
      refine integerOf?_signed (fun n => .int32 (.ofInt n)) (by rw [read?, hint]; rfl)
        hcode hsign hvalue ?_
      rw [show powerOfTwo (8 * 4) = 4294967296 from rfl] at hlow hhigh
      rw [integerOf?, Int32.toInt_ofInt_of_le (by omega) (by omega)]
  | bigint =>
      have hbig : ColumnType.name ⟨8, flags, size⟩ = "BIGINT" := hname _
      refine integerOf?_signed (fun n => .int64 (.ofInt n)) (by rw [read?, hbig]; rfl)
        hcode hsign hvalue ?_
      rw [show powerOfTwo (8 * 8) = 18446744073709551616 from rfl] at hlow hhigh
      rw [integerOf?, Int64.toInt_ofInt_of_le (by omega) (by omega)]
  | year => exact absurd rfl hyear

theorem integerOf?_toLittleEndian {t : ColumnType} {width n : Nat}
    (hwidth : IntegerWidth t.code width) (hsign : t.isUnsigned = true)
    (hlimit : n < powerOfTwo (8 * width)) (hyear : t.code ≠ 13) (htruth : ¬IsTruth t) :
    integerOf? (decodeCell t (some (toLittleEndian width n))) = some (n : Int) := by
  have hvalue := littleEndian_toLittleEndian_of_lt hlimit
  have hcode := hwidth.mem_integerCodes hyear
  obtain ⟨code, flags, size⟩ := t
  have hname := integerName_unsigned hsign
  cases hwidth with
  | tinyint =>
      have htiny : ColumnType.name ⟨1, flags, size⟩ = "TINYINT UNSIGNED" :=
        (if_neg fun hsize => htruth ⟨rfl, hsize⟩).trans (hname _)
      refine integerOf?_unsigned (fun n => .int16 (.ofNat n)) (by rw [read?, htiny]; rfl)
        hcode hsign hvalue ?_
      rw [show powerOfTwo (8 * 1) = 256 from rfl] at hlimit
      rw [integerOf?, Int16.toInt_ofNat_of_lt (by omega)]
  | smallint =>
      have hsmall : ColumnType.name ⟨2, flags, size⟩ = "SMALLINT UNSIGNED" := hname _
      refine integerOf?_unsigned (fun n => .int32 (.ofNat n)) (by rw [read?, hsmall]; rfl)
        hcode hsign hvalue ?_
      rw [show powerOfTwo (8 * 2) = 65536 from rfl] at hlimit
      rw [integerOf?, Int32.toInt_ofNat_of_lt (by omega)]
  | mediumint =>
      have hmedium : ColumnType.name ⟨9, flags, size⟩ = "MEDIUMINT UNSIGNED" := hname _
      refine integerOf?_unsigned (fun n => .int64 (.ofNat n)) (by rw [read?, hmedium]; rfl)
        hcode hsign hvalue ?_
      rw [show powerOfTwo (8 * 4) = 4294967296 from rfl] at hlimit
      rw [integerOf?, Int64.toInt_ofNat_of_lt (by omega)]
  | int =>
      have hint : ColumnType.name ⟨3, flags, size⟩ = "INT UNSIGNED" := hname _
      refine integerOf?_unsigned (fun n => .int64 (.ofNat n)) (by rw [read?, hint]; rfl)
        hcode hsign hvalue ?_
      rw [show powerOfTwo (8 * 4) = 4294967296 from rfl] at hlimit
      rw [integerOf?, Int64.toInt_ofNat_of_lt (by omega)]
  | bigint =>
      have hbig : ColumnType.name ⟨8, flags, size⟩ = "BIGINT UNSIGNED" := hname _
      refine integerOf?_unsigned (fun n => .uint64 (.ofNat n)) (by rw [read?, hbig]; rfl)
        hcode hsign hvalue ?_
      rw [show powerOfTwo (8 * 8) = 18446744073709551616 from rfl] at hlimit
      rw [integerOf?, UInt64.toNat_ofNat_of_lt' (by simpa using hlimit)]
  | year => exact absurd rfl hyear

/-- A truth value tells whether the number is zero. -/
theorem decodeCell_truth {t : ColumnType} (h : IsTruth t) (payload : List UInt8) :
    decodeCell t (some payload) = .bool (littleEndian payload != 0) := by
  obtain ⟨code, flags, size⟩ := t
  obtain ⟨rfl, rfl⟩ := h
  have hname : ColumnType.name ⟨1, flags, 1⟩ = "BOOLEAN" := rfl
  exact decodeCell_of_read? (by rw [read?, hname]; rfl)

theorem littleEndian_signedBytes_ne_zero {width : Nat} {n : Int}
    (hlow : -powerOfTwo (8 * width) ≤ 2 * n) (hhigh : 2 * n < powerOfTwo (8 * width)) :
    (littleEndian (signedBytes width n) != 0) = decide (n ≠ 0) := by
  have hpos := powerOfTwo_pos (8 * width)
  rw [signedBytes, littleEndian_toLittleEndian_of_lt (by split <;> omega), Bool.eq_iff_iff,
    bne_iff_ne, decide_eq_true_iff]
  split <;> omega

/-! ## Texts, bytes and the rest -/

/-- What a reading gives as a value is null if it gives nothing. -/
theorem decodeCell_eq_null_iff {t : ColumnType} {payload : List UInt8} {α : Type} {found : Option α}
    (wrap : α → Value) (hread : read? t payload = found.map wrap) (hwrap : ∀ a, wrap a ≠ .null) :
    decodeCell t (some payload) = .null ↔ found = none := by
  rw [decodeCell, hread]
  cases found with
  | none => exact iff_of_true rfl rfl
  | some a => exact iff_of_false (hwrap a) nofun

theorem utf8?_utf8Encode (s : String) : utf8? (utf8Encode s) = some s := by
  rw [utf8?, utf8Decode_utf8Encode]
  rfl

section Strings

variable {t : ColumnType}

theorem name_text (hcode : t.code ∈ ColumnType.stringCodes) (hbinary : t.isBinary = false) :
    t.name ∈ ["CHAR", "VARCHAR", "TINYTEXT", "TEXT", "MEDIUMTEXT", "LONGTEXT", "ENUM"] := by
  obtain ⟨code, flags, size⟩ := t
  simp only [ColumnType.stringCodes, List.mem_cons, List.not_mem_nil, or_false] at hcode
  rcases hcode with rfl | rfl | rfl | rfl | rfl | rfl | rfl | rfl <;>
    simp only [ColumnType.name, hbinary, Bool.false_eq_true, if_false] <;>
    first | decide | split <;> decide

theorem read?_text (hcode : t.code ∈ ColumnType.stringCodes) (hbinary : t.isBinary = false)
    (payload : List UInt8) : read? t payload = (text? t payload).map .text := by
  have hname := name_text hcode hbinary
  simp only [List.mem_cons, List.not_mem_nil, or_false] at hname
  rcases hname with hname | hname | hname | hname | hname | hname | hname <;>
    (rw [read?, hname]; rfl)

theorem name_bytes (hcode : t.code ∈ ColumnType.stringCodes) (hbinary : t.isBinary = true)
    (hset : t.code ≠ 247) :
    t.name ∈ ["BINARY", "VARBINARY", "TINYBLOB", "BLOB", "MEDIUMBLOB", "LONGBLOB"] := by
  obtain ⟨code, flags, size⟩ := t
  simp only [ColumnType.stringCodes, List.mem_cons, List.not_mem_nil, or_false] at hcode
  rcases hcode with rfl | rfl | rfl | rfl | rfl | rfl | rfl | rfl <;>
    simp only [ColumnType.name, hbinary, if_true] <;>
    first | decide | exact absurd rfl hset

theorem read?_bytes (hcode : t.code ∈ ColumnType.stringCodes) (hbinary : t.isBinary = true)
    (hset : t.code ≠ 247) (payload : List UInt8) :
    read? t payload = (bytes? t payload).map .bytes := by
  have hname := name_bytes hcode hbinary hset
  simp only [List.mem_cons, List.not_mem_nil, or_false] at hname
  rcases hname with hname | hname | hname | hname | hname | hname <;> (rw [read?, hname]; rfl)

theorem name_other (hcode : IsOther t.code) : t.name ∈ ["NULL", "BIT", "GEOMETRY"] := by
  unfold ColumnType.name
  split <;> first | decide | simp_all [IsOther, ColumnType.stringCodes]

theorem read?_other (hcode : IsOther t.code) (payload : List UInt8) :
    read? t payload = some (unknown t payload) := by
  have hname := name_other hcode
  simp only [List.mem_cons, List.not_mem_nil, or_false] at hname
  rcases hname with hname | hname | hname <;> (rw [read?, hname]; rfl)

end Strings

/-! ## Which cells are null -/

section Null

variable {t : ColumnType}

theorem decodeCell_text_ne_null (hcode : t.code ∈ ColumnType.stringCodes)
    (hbinary : t.isBinary = false) (s : String) : decodeCell t (some (utf8Encode s)) ≠ .null := by
  have htext : text? t (utf8Encode s) = some s := by
    rw [text?, ColumnType.readsText, ColumnType.readsBytes, List.contains_iff_mem.mpr hcode,
      hbinary, utf8?_utf8Encode]
    rfl
  rw [Ne, decodeCell_eq_null_iff _ (read?_text hcode hbinary _) nofun, htext]
  nofun

theorem decodeCell_bytes_ne_null (hcode : t.code ∈ ColumnType.stringCodes)
    (hbinary : t.isBinary = true) (hset : t.code ≠ 247) (data : List UInt8) :
    decodeCell t (some data) ≠ .null := by
  have hbytes : bytes? t data = some data := by
    rw [bytes?, ColumnType.readsBytes, List.contains_iff_mem.mpr hcode, if_pos rfl]
  rw [Ne, decodeCell_eq_null_iff _ (read?_bytes hcode hbinary hset data) nofun, hbytes]
  nofun

theorem decodeCell_document_ne_null {p : Json.Padded} (hcode : t.code = 245)
    (hp : Json.Spells documentDepth p.text) :
    decodeCell t (some (utf8Encode (String.ofList p.chars))) ≠ .null := by
  have hname : t.name = "JSON" := by simp only [ColumnType.name, hcode]
  obtain ⟨doc, hdoc⟩ := Json.exists_parse_eq_ok (hp.mono (by decide))
  rw [Ne, decodeCell_eq_null_iff .json (by rw [read?, hname]; rfl) nofun,
    utf8?_utf8Encode, Option.bind_some, hdoc]
  nofun

/-- A decimal number is null if 96 bits do not hold it when it is rounded to a whole number. -/
theorem decodeCell_decimal_eq_null_iff (hcode : t.code = 0 ∨ t.code = 246) (n : Decimal.Numeral) :
    decodeCell t (some (utf8Encode (String.ofList n.chars))) = .null ↔
      (Content.decimal n).IsBeyond := by
  have hname : t.name = "DECIMAL" := by
    rcases hcode with hcode | hcode <;> simp only [ColumnType.name, hcode]
  have hread := Decimal.exists_readPlain_iff n
  rw [decodeCell_eq_null_iff .decimal (by rw [read?, hname]; rfl) nofun,
    utf8?_utf8Encode, Option.bind_some, Decimal.ofPlainText, String.toList_ofList,
    Content.IsBeyond, ← Nat.not_lt, ← hread]
  cases Decimal.readPlain n.chars with
  | error e => simp [Except.toOption]
  | ok d => simp [Except.toOption]

/-- A cell with its length before it is null if its content is not read. -/
theorem decodeCell_counted_eq_null_iff {α : Type} {found : List UInt8 → Option α}
    (wrap : α → Value) {content : List UInt8} (hlength : content.length < 256)
    (hread : read? t (counted content) = ((content? (counted content)).bind found).map wrap)
    (hwrap : ∀ a, wrap a ≠ .null) :
    decodeCell t (some (counted content)) = .null ↔ found content = none := by
  rw [content?_counted hlength, Option.bind_some] at hread
  exact decodeCell_eq_null_iff wrap hread hwrap

theorem decodeCell_date_eq_null_iff (hcode : t.code = 10) {content : List UInt8}
    (hlength : content.length < 256) :
    decodeCell t (some (counted content)) = .null ↔ date? content = none := by
  have hname : t.name = "DATE" := by simp only [ColumnType.name, hcode]
  exact decodeCell_counted_eq_null_iff .date hlength (by rw [read?, hname]; rfl)
    fun _ h => nomatch h

theorem decodeCell_moment_eq_null_iff (hcode : t.code = 7 ∨ t.code = 12) {content : List UInt8}
    (hlength : content.length < 256) :
    decodeCell t (some (counted content)) = .null ↔ moment? content = none := by
  rcases hcode with hcode | hcode
  · have hname : t.name = "TIMESTAMP" := by simp only [ColumnType.name, hcode]
    exact decodeCell_counted_eq_null_iff .dateTimeTz hlength (by rw [read?, hname]; rfl)
      fun _ h => nomatch h
  · have hname : t.name = "DATETIME" := by simp only [ColumnType.name, hcode]
    exact decodeCell_counted_eq_null_iff .dateTime hlength (by rw [read?, hname]; rfl)
      fun _ h => nomatch h

theorem decodeCell_duration_eq_null_iff (hcode : t.code = 11) {content : List UInt8}
    (hlength : content.length < 256) :
    decodeCell t (some (counted content)) = .null ↔ duration? content = none := by
  have hname : t.name = "TIME" := by simp only [ColumnType.name, hcode]
  exact decodeCell_counted_eq_null_iff .time hlength (by rw [read?, hname]; rfl)
    fun _ h => nomatch h

end Null

/-- An integer is read as an integer variant of its number, or as a truth value. -/
theorem Sends.integer {t : ColumnType} {payload : List UInt8} {n : Int}
    (h : Sends t (.integer n) payload) (hread : ¬IsMisread t) :
    (IsTruth t → decodeCell t (some payload) = .bool (n ≠ 0)) ∧
      (¬IsTruth t → integerOf? (decodeCell t (some payload)) = some n) := by
  have hyear : t.code ≠ 13 := fun h => hread (.inl h)
  generalize hcontent : Content.integer n = content at h
  cases h with
  | signed hwidth hsign hlow hhigh =>
      obtain rfl := Content.integer.inj hcontent
      refine ⟨fun htruth => ?_, integerOf?_signedBytes hwidth hsign hlow hhigh hyear⟩
      rw [decodeCell_truth htruth, littleEndian_signedBytes_ne_zero hlow hhigh]
  | unsigned hwidth hsign hlimit =>
      obtain rfl := Content.integer.inj hcontent
      refine ⟨fun htruth => ?_, integerOf?_toLittleEndian hwidth hsign hlimit hyear⟩
      rw [decodeCell_truth htruth, littleEndian_toLittleEndian_of_lt hlimit, Value.bool.injEq,
        Bool.eq_iff_iff, bne_iff_ne, decide_eq_true_iff]
      omega
  | _ => cases hcontent

theorem Sends.integer_ne_null {t : ColumnType} {payload : List UInt8} {n : Int}
    (h : Sends t (.integer n) payload) (hread : ¬IsMisread t) :
    decodeCell t (some payload) ≠ .null := by
  obtain ⟨htrue, hinteger⟩ := h.integer hread
  intro hnull
  rw [hnull] at htrue hinteger
  by_cases htruth : IsTruth t
  · cases htrue htruth
  · cases hinteger htruth

/-- A cell is null if there is no value for what it holds. -/
theorem Sends.null_iff {t : ColumnType} {content : Content} {payload : List UInt8}
    (h : Sends t content payload) (hread : ¬IsMisread t) :
    decodeCell t (some payload) = .null ↔ content.IsBeyond := by
  have hstrings : t.code ∈ 248 :: ColumnType.stringCodes → t.code ∈ ColumnType.stringCodes :=
    fun hcode => (List.mem_cons.mp hcode).resolve_left fun hset => hread (.inr (.inl hset))
  have hdate (d : Day) : d.bytes.length < 256 := by simp [Day.bytes, length_toLittleEndian]
  cases h with
  | signed hwidth hsign hlow hhigh =>
      exact iff_of_false ((Sends.signed hwidth hsign hlow hhigh).integer_ne_null hread) nofun
  | unsigned hwidth hsign hlimit =>
      exact iff_of_false ((Sends.unsigned hwidth hsign hlimit).integer_ne_null hread) nofun
  | single hcode =>
      have hname : t.name = "FLOAT" := by simp only [ColumnType.name, hcode]
      refine iff_of_false ?_ nofun
      rw [decodeCell_of_read? (by rw [read?, hname]; rfl)]
      nofun
  | double hcode =>
      have hname : t.name = "DOUBLE" := by simp only [ColumnType.name, hcode]
      refine iff_of_false ?_ nofun
      rw [decodeCell_of_read? (by rw [read?, hname]; rfl)]
      nofun
  | decimal hcode => exact decodeCell_decimal_eq_null_iff hcode _
  | text hcode hbinary =>
      exact iff_of_false (decodeCell_text_ne_null (hstrings hcode) hbinary _) nofun
  | bytes hcode hbinary =>
      have henum : t.code ≠ 247 := fun h => hread (.inr (.inr ⟨h, hbinary⟩))
      exact iff_of_false (decodeCell_bytes_ne_null (hstrings hcode) hbinary henum _) nofun
  | document hcode hp => exact iff_of_false (decodeCell_document_ne_null hcode hp) nofun
  | noDate hcode =>
      rw [decodeCell_date_eq_null_iff hcode (by decide)]
      exact iff_of_true rfl Day.not_isDate_zero
  | date hcode =>
      rw [decodeCell_date_eq_null_iff hcode (hdate _), ← List.append_nil (Day.bytes _),
        date?_bytes, date_of?_eq_none_iff]
      rfl
  | noMoment hcode =>
      rw [decodeCell_moment_eq_null_iff hcode (by decide)]
      exact iff_of_true rfl Day.not_isDate_zero
  | startOfDay hcode =>
      rw [decodeCell_moment_eq_null_iff hcode (hdate _), ← List.append_nil (Day.bytes _),
        moment?_bytes (c := .midnight) (.inl rfl)]
      rfl
  | moment hcode hclock =>
      have hlength := hclock.length
      rw [decodeCell_moment_eq_null_iff hcode
          (by simp only [Day.bytes, List.length_append, length_toLittleEndian, List.length]; omega),
        moment?_bytes (.inr hclock)]
      rfl
  | noDuration hcode =>
      rw [decodeCell_duration_eq_null_iff hcode (by decide)]
      exact iff_of_false nofun (by simp [Content.IsBeyond])
  | duration hcode hdays hclock =>
      have hlength := hclock.length
      rw [decodeCell_duration_eq_null_iff hcode
          (by simp only [List.length_append, List.length_cons, length_toLittleEndian]; omega),
        duration?_bytes hdays hclock]
      rfl
  | other hcode =>
      refine iff_of_false ?_ nofun
      rw [decodeCell_of_read? (read?_other hcode _)]
      nofun

/-- A cell is null only where there is no value for what it holds, and integers are read as their
numbers, but for those that count as truth values. -/
theorem decodeCell_sent {t : ColumnType} {content : Content} {payload : List UInt8}
    (h : Sends t content payload) (hread : ¬IsMisread t) :
    (decodeCell t (some payload) = .null ↔ content.IsBeyond) ∧
      ∀ n, content = .integer n →
        (IsTruth t → decodeCell t (some payload) = .bool (n ≠ 0)) ∧
          (¬IsTruth t → integerOf? (decodeCell t (some payload)) = some n) := by
  refine ⟨h.null_iff hread, ?_⟩
  rintro n rfl
  exact h.integer hread

/-- A negative tiny integer, a large integer without a sign, a truth value, a time of day and a
moment of the thirtieth of February. -/
theorem decodeCell_sent_kinds :
    (Sends ⟨1, 0, 4⟩ (.integer (-5)) [251] ∧ ¬IsMisread ⟨1, 0, 4⟩ ∧
        integerOf? (decodeCell ⟨1, 0, 4⟩ (some [251])) = some (-5)) ∧
      (Sends ⟨8, 32, 20⟩ (.integer 18446744073709551615) (.replicate 8 255) ∧
        ¬IsMisread ⟨8, 32, 20⟩ ∧
        integerOf? (decodeCell ⟨8, 32, 20⟩ (some (.replicate 8 255))) =
          some 18446744073709551615) ∧
      (Sends ⟨1, 0, 1⟩ (.integer 5) [5] ∧ ¬IsMisread ⟨1, 0, 1⟩ ∧
        decodeCell ⟨1, 0, 1⟩ (some [5]) = .bool true) ∧
      (Sends ⟨11, 0, 0⟩ (.duration false 0 .noon) [8, 0, 0, 0, 0, 0, 12, 0, 0] ∧
        ¬IsMisread ⟨11, 0, 0⟩ ∧
        decodeCell ⟨11, 0, 0⟩ (some [8, 0, 0, 0, 0, 0, 12, 0, 0]) ≠ .null) ∧
      (Sends ⟨12, 0, 0⟩ (.moment .noDay .midnight) [4, 231, 7, 2, 30] ∧
        ¬IsMisread ⟨12, 0, 0⟩ ∧
        decodeCell ⟨12, 0, 0⟩ (some [4, 231, 7, 2, 30]) = .null) := by
  have hsigned : Sends ⟨1, 0, 4⟩ (.integer (-5)) (signedBytes 1 (-5)) :=
    .signed .tinyint rfl (by decide) (by decide)
  have hunsigned : Sends ⟨8, 32, 20⟩ (.integer 18446744073709551615)
      (toLittleEndian 8 18446744073709551615) :=
    .unsigned .bigint rfl (by decide)
  have htruth : Sends ⟨1, 0, 1⟩ (.integer 5) (signedBytes 1 5) :=
    .signed .tinyint rfl (by decide) (by decide)
  have htime : Sends ⟨11, 0, 0⟩ (.duration false 0 .noon) [8, 0, 0, 0, 0, 0, 12, 0, 0] :=
    .duration rfl (by decide) (.whole rfl)
  have hmoment : Sends ⟨12, 0, 0⟩ (.moment .noDay .midnight) [4, 231, 7, 2, 30] :=
    .startOfDay (.inr rfl)
  refine ⟨⟨hsigned, by decide, ?_⟩, ⟨hunsigned, by decide, ?_⟩, ⟨htruth, by decide, ?_⟩,
    ⟨htime, by decide, ?_⟩, ⟨hmoment, by decide, ?_⟩⟩
  · exact ((decodeCell_sent hsigned (by decide)).2 _ rfl).2 (by decide)
  · exact ((decodeCell_sent hunsigned (by decide)).2 _ rfl).2 (by decide)
  · exact ((decodeCell_sent htruth (by decide)).2 _ rfl).1 (by decide)
  · rw [Ne, (decodeCell_sent htime (by decide)).1, Content.IsBeyond]
    decide
  · rw [(decodeCell_sent hmoment (by decide)).1, Content.IsBeyond]
    decide

/-- The least whole number that 96 bits do not hold. -/
def leastBeyond : Decimal.Numeral where
  negative := false
  whole := "79228162514264337593543950336".toList
  fraction := []
  whole_digits := fun c hc => List.all_eq_true.mp (by decide) c hc
  whole_ne := by decide
  fraction_digits := nofun

/-- A whole day, a negative half day, the date and the moment that are all zeros and a large number
are null, and a five is a truth value. -/
theorem decodeCell_beyond :
    (Sends ⟨11, 0, 0⟩ (.duration false 1 .midnight) [8, 0, 1, 0, 0, 0, 0, 0, 0] ∧
        decodeCell ⟨11, 0, 0⟩ (some [8, 0, 1, 0, 0, 0, 0, 0, 0]) = .null) ∧
      (Sends ⟨11, 0, 0⟩ (.duration true 0 .noon) [8, 1, 0, 0, 0, 0, 12, 0, 0] ∧
        decodeCell ⟨11, 0, 0⟩ (some [8, 1, 0, 0, 0, 0, 12, 0, 0]) = .null) ∧
      (Sends ⟨10, 0, 0⟩ (.date .zero) [0] ∧ decodeCell ⟨10, 0, 0⟩ (some [0]) = .null) ∧
      (Sends ⟨12, 0, 0⟩ (.moment .zero .midnight) [0] ∧
        decodeCell ⟨12, 0, 0⟩ (some [0]) = .null) ∧
      (Sends ⟨246, 0, 0⟩ (.decimal leastBeyond) (utf8Encode "79228162514264337593543950336") ∧
        decodeCell ⟨246, 0, 0⟩ (some (utf8Encode "79228162514264337593543950336")) = .null) ∧
      (Sends ⟨1, 0, 1⟩ (.integer 5) [5] ∧
        integerOf? (decodeCell ⟨1, 0, 1⟩ (some [5])) = none) := by
  have htext : String.ofList leastBeyond.chars = "79228162514264337593543950336" := by decide
  have hbeyond : Decimal.coefficientLimit ≤ digitsValue 0 leastBeyond.whole + 0 := by decide
  have hnull :=
    (decodeCell_decimal_eq_null_iff (t := ⟨246, 0, 0⟩) (.inr rfl) leastBeyond).mpr hbeyond
  have htruth : Sends ⟨1, 0, 1⟩ (.integer 5) (signedBytes 1 5) :=
    .signed .tinyint rfl (by decide) (by decide)
  rw [htext] at hnull
  exact ⟨⟨.duration rfl (by decide) (.whole rfl), rfl⟩,
    ⟨.duration rfl (by decide) (.whole rfl), rfl⟩, ⟨.noDate rfl, rfl⟩,
    ⟨.noMoment (.inr rfl), rfl⟩, ⟨htext ▸ .decimal (.inr rfl), hnull⟩, ⟨htruth, rfl⟩⟩

end SqlSchema.MySql
