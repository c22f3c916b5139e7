import Mathlib.Tactic.SplitIfs
import SqlSchema.Sqlite.Decode

/-! # What becomes of stored cells

Any class of value may be stored in a column of any type. The type of the column makes a truth
value, a date, a time or a decimal number of some cells, and the others keep their content, but for
those that are lost: what is no integer in a column of truth values, and numbers in a column of
bytes. -/

namespace SqlSchema.Sqlite

open SqlSchema.Temporal SqlSchema.Text

/-! ## Cells that change, cells that stay and cells that are lost -/

/-- The names of the type of truth values. -/
def IsTruthType (type : String) : Prop :=
  type = "BOOLEAN" ∨ type = "BOOL"

/-- A cell of which the type of its column makes another kind of value: an integer that is a truth
value, or a text that spells a date, a time, a moment or a decimal number. -/
inductive Converts : String → Stored → Value → Prop where
  | truth {type} (htype : IsTruthType type) (n : Int64) :
      Converts type (.integer n) (.bool (n != 0))
  | date {s d} (hs : Date.read .strict s = .ok d) : Converts "DATE" (.text s) (.date d)
  | time {s t} (hs : Time.readFull s = .ok t) : Converts "TIME" (.text s) (.time t)
  | moment {type s m} (htype : type = "DATETIME" ∨ type = "TIMESTAMP")
      (hs : DateTime.readCell s = .ok m) : Converts type (.text s) (.dateTime m)
  | decimal {type s d} (htype : type = "NUMERIC" ∨ type = "DECIMAL")
      (hs : Decimal.ofPlainText s = .ok d) : Converts type (.text s) (.decimal d)

/-- A value with the content of a cell. A column of bytes gives the bytes of a text. -/
inductive Keeps : String → Stored → Value → Prop where
  | integer (type : String) (n : Int64) : Keeps type (.integer n) (.int64 n)
  | real (type : String) (x : Number.Double) : Keeps type (.real x) (.float64 x)
  | text {type : String} (htype : type ≠ "BLOB") (s : String) : Keeps type (.text s) (.text s)
  | textBytes (s : String) : Keeps "BLOB" (.text s) (.bytes (utf8Encode s))
  | blob (type : String) (data : List UInt8) : Keeps type (.blob data) (.bytes data)

/-- A cell that is decoded as null though it may hold something. -/
inductive Lost : String → Stored → Prop where
  | truth {type v} (htype : IsTruthType type) (hv : v.integer? = none) : Lost type v
  | bytes {v} (hv : v.bytes? = none) : Lost "BLOB" v

theorem Converts.ne_null {type : String} {v : Stored} {w : Value} (h : Converts type v w) :
    w ≠ .null := by
  rcases h <;> nofun

theorem Keeps.ne_null {type : String} {v : Stored} {w : Value} (h : Keeps type v w) :
    w ≠ .null := by
  rcases h <;> nofun

/-! ## Cells by the types of their columns -/

section Types

variable {type : String}

theorem decodeByType_truth (htype : IsTruthType type) (v : Stored) :
    decodeByType type v = (v.integer?.map fun n => .bool (n != 0)).getD .null := by
  rcases htype with rfl | rfl <;> rfl

theorem decodeByType_bytes (v : Stored) :
    decodeByType "BLOB" v = (v.bytes?.map .bytes).getD .null := by
  rfl

theorem decodeByType_date (v : Stored) :
    decodeByType "DATE" v = decodeText "DATE" dateValue? v := by
  rfl

theorem decodeByType_time (v : Stored) :
    decodeByType "TIME" v = decodeText "TIME" timeValue? v := by
  rfl

theorem decodeByType_moment (htype : type = "DATETIME" ∨ type = "TIMESTAMP") (v : Stored) :
    decodeByType type v = decodeText type momentValue? v := by
  rcases htype with rfl | rfl <;> rfl

theorem decodeByType_decimal (htype : type = "NUMERIC" ∨ type = "DECIMAL") (v : Stored) :
    decodeByType type v =
      decodeText type (fun s => (Decimal.ofPlainText s).toOption.map .decimal) v := by
  rcases htype with rfl | rfl <;> rfl

end Types

theorem decodeText_of_read {type s : String} {read : String → Option Value} {w : Value}
    (h : read s = some w) : decodeText type read (.text s) = w := by
  simp [decodeText, Stored.text?, h]

theorem toOption_map_eq_some_iff {ε α β : Type} {r : Except ε α} {f : α → β} {b : β} :
    r.toOption.map f = some b ↔ ∃ a, r = .ok a ∧ f a = b := by
  cases r <;> simp [Except.toOption]

theorem Converts.decodeByType_eq {type : String} {v : Stored} {w : Value}
    (h : Converts type v w) : decodeByType type v = w := by
  rcases h with ⟨htype, n⟩ | hs | hs | ⟨htype, hs⟩ | ⟨htype, hs⟩
  · exact decodeByType_truth htype _
  · rw [decodeByType_date]
    exact decodeText_of_read (toOption_map_eq_some_iff.mpr ⟨_, hs, rfl⟩)
  · rw [decodeByType_time]
    exact decodeText_of_read (toOption_map_eq_some_iff.mpr ⟨_, hs, rfl⟩)
  · rw [decodeByType_moment htype]
    exact decodeText_of_read (toOption_map_eq_some_iff.mpr ⟨_, hs, rfl⟩)
  · rw [decodeByType_decimal htype]
    exact decodeText_of_read (toOption_map_eq_some_iff.mpr ⟨_, hs, rfl⟩)

theorem Lost.decodeByType_eq {type : String} {v : Stored} (h : Lost type v) :
    decodeByType type v = .null := by
  rcases h with ⟨htype, hv⟩ | hv
  · rw [decodeByType_truth htype, hv]
    rfl
  · rw [decodeByType_bytes, hv]
    rfl

theorem keeps_decodeByClass {type : String} {v : Stored} (hv : v ≠ .null) (htype : type ≠ "BLOB") :
    Keeps type v (decodeByClass type v) := by
  cases v with
  | null => exact absurd rfl hv
  | integer n => exact .integer type n
  | real x => exact .real type x
  | text s => exact .text htype s
  | blob data => exact .blob type data

/-- What happens to a cell that is decoded as a value. -/
inductive Fate (type : String) (v : Stored) (w : Value) : Prop where
  | converted (h : Converts type v w)
  | kept (h : Keeps type v w)
  | lost (h : Lost type v)

theorem Fate.ite {type : String} {v : Stored} {c : Prop} [Decidable c] {w w' : Value}
    (hthen : c → Fate type v w) (helse : ¬c → Fate type v w') :
    Fate type v (if c then w else w') :=
  iteInduction (motive := Fate type v) hthen helse

theorem fate_decodeText {type : String} {v : Stored} (hv : v ≠ .null) (htype : type ≠ "BLOB")
    {read : String → Option Value}
    (hread : ∀ s w, read s = some w → Converts type (.text s) w) :
    Fate type v (decodeText type read v) := by
  cases v with
  | null => exact absurd rfl hv
  | integer n => exact .kept (.integer type n)
  | real x => exact .kept (.real type x)
  | blob data => exact .kept (.blob type data)
  | text s =>
      cases hs : read s with
      | some w => exact .converted ((decodeText_of_read hs).symm ▸ hread s w hs)
      | none =>
          have hkept : decodeText type read (.text s) = .text s := by
            simp [decodeText, Stored.text?, hs]
          exact .kept (hkept ▸ .text htype s)

/-- A cell of any type is converted, kept or lost. -/
theorem fate_decodeByType (type : String) {v : Stored} (hv : v ≠ .null) :
    Fate type v (decodeByType type v) := by
  by_cases hblob : type = "BLOB"
  · subst hblob
    cases v with
    | null => exact absurd rfl hv
    | integer n => exact .lost (.bytes rfl)
    | real x => exact .lost (.bytes rfl)
    | text s => exact .kept (.textBytes s)
    | blob data => exact .kept (.blob _ data)
  have hclass := keeps_decodeByClass hv hblob
  -- The first attempt at an integer, a real or a text gives what the class gives.
  have hinteger : (v.integer?.map .int64).getD (decodeByClass type v) = decodeByClass type v := by
    cases v <;> rfl
  have hreal : (v.real?.map .float64).getD (decodeByClass type v) = decodeByClass type v := by
    cases v <;> rfl
  have htext : (v.text?.map .text).getD (decodeByClass type v) = decodeByClass type v := by
    cases v <;> rfl
  unfold decodeByType
  rw [hinteger, hreal, htext]
  refine .ite (fun _ => .kept hclass) fun _ => .ite (fun h => ?truth) fun _ =>
    .ite (fun _ => .kept hclass) fun _ => .ite (fun _ => .kept hclass) fun _ =>
    .ite (fun h => absurd (eq_of_beq h) hblob) fun _ => .ite (fun h => ?date) fun _ =>
    .ite (fun h => ?time) fun _ => .ite (fun h => ?moment) fun _ =>
    .ite (fun h => ?decimal) fun _ => .kept hclass
  case truth =>
    have htruth : IsTruthType type := by simpa [IsTruthType] using h
    cases v with
    | null => exact absurd rfl hv
    | integer n => exact .converted (.truth htruth n)
    | real x => exact .lost (.truth htruth rfl)
    | text s => exact .lost (.truth htruth rfl)
    | blob data => exact .lost (.truth htruth rfl)
  case date =>
    obtain rfl := eq_of_beq h
    refine fate_decodeText hv hblob fun s w hs => ?_
    obtain ⟨d, hd, rfl⟩ := toOption_map_eq_some_iff.mp hs
    exact .date hd
  case time =>
    obtain rfl := eq_of_beq h
    refine fate_decodeText hv hblob fun s w hs => ?_
    obtain ⟨t, ht, rfl⟩ := toOption_map_eq_some_iff.mp hs
    exact .time ht
  case moment =>
    refine fate_decodeText hv hblob fun s w hs => ?_
    obtain ⟨m, hm, rfl⟩ := toOption_map_eq_some_iff.mp hs
    exact .moment (by simpa using h) hm
  case decimal =>
    refine fate_decodeText hv hblob fun s w hs => ?_
    obtain ⟨d, hd, rfl⟩ := toOption_map_eq_some_iff.mp hs
    exact .decimal (by simpa using h) hd

/-! ## Cells by declared types -/

def DeclaresTruth (declared : String) : Prop :=
  lowerAscii declared = "boolean" ∨ lowerAscii declared = "bool"

/-- A declared type of bytes: it names a blob, and neither an integer nor text. -/
def DeclaresBytes (declared : String) : Prop :=
  occurs "blob" (lowerAscii declared) = true ∧
    ∀ word ∈ ["int", "char", "clob", "text"], occurs word (lowerAscii declared) = false

theorem iff_ite (P : String → Prop) {q c : Prop} [Decidable c] {name name' : String}
    (hthen : c → (P name ↔ q)) (helse : ¬c → (P name' ↔ q)) :
    P (if c then name else name') ↔ q :=
  iteInduction (motive := fun name => P name ↔ q) hthen helse

theorem isTruthType_reportedType_iff (declared : String) :
    IsTruthType (reportedType declared) ↔ DeclaresTruth declared := by
  unfold reportedType DeclaresTruth
  dsimp only
  generalize lowerAscii declared = type
  iterate 9
    refine iff_ite IsTruthType (fun h => ?_) fun h => ?_
    rotate_left
  all_goals
    unfold IsTruthType
    grind

theorem reportedType_eq_blob_iff (declared : String) :
    reportedType declared = "BLOB" ↔ DeclaresBytes declared := by
  have hnamed : ∀ type ∈ ["int4", "int8", "boolean", "bool", "date", "time", "datetime",
      "timestamp"], occurs "blob" type = false := by
    decide
  simp only [List.forall_mem_cons] at hnamed
  unfold reportedType DeclaresBytes
  dsimp only
  generalize lowerAscii declared = type
  iterate 9
    refine iff_ite (· = "BLOB") (fun h => ?_) fun h => ?_
    rotate_left
  all_goals grind

theorem lost_iff (type : String) (v : Stored) :
    Lost type v ↔ IsTruthType type ∧ v.integer? = none ∨ type = "BLOB" ∧ v.bytes? = none := by
  constructor
  · rintro (⟨htype, hv⟩ | hv)
    · exact .inl ⟨htype, hv⟩
    · exact .inr ⟨rfl, hv⟩
  · rintro (⟨htype, hv⟩ | ⟨rfl, hv⟩)
    · exact .truth htype hv
    · exact .bytes hv

/-- Which cells are lost in a column, by its declared type. -/
theorem lost_reportedType_iff (declared : String) (v : Stored) :
    Lost (reportedType declared) v ↔
      DeclaresTruth declared ∧ v.integer? = none ∨ DeclaresBytes declared ∧ v.bytes? = none := by
  rw [lost_iff, isTruthType_reportedType_iff, reportedType_eq_blob_iff]

theorem decodeCell_of_ne_null {v : Stored} (hv : v ≠ .null) (type : String) :
    decodeCell type v = decodeByType type v := by
  cases v with
  | null => exact absurd rfl hv
  | _ => rfl

theorem decodeByType_eq_null_iff (type : String) {v : Stored} (hv : v ≠ .null) :
    decodeByType type v = .null ↔ Lost type v := by
  constructor
  · intro hnull
    cases fate_decodeByType type hv with
    | converted h => exact absurd hnull h.ne_null
    | kept h => exact absurd hnull h.ne_null
    | lost h => exact h
  · exact Lost.decodeByType_eq

/-- A cell that holds something is decoded as null only where it is lost. Otherwise it is converted
if the type of its column converts it, and keeps its content if not. Lost are cells that are no
integers in columns that are declared for truth values, and numbers in columns that are declared for
bytes. -/
theorem decodeCell_content {v : Stored} (hv : v ≠ .null) :
    (∀ type, (decodeCell type v = .null ↔ Lost type v) ∧
      (∀ w, Converts type v w → decodeCell type v = w) ∧
      (¬Lost type v → (∀ w, ¬Converts type v w) → Keeps type v (decodeCell type v))) ∧
    ∀ declared, Lost (reportedType declared) v ↔
      DeclaresTruth declared ∧ v.integer? = none ∨ DeclaresBytes declared ∧ v.bytes? = none := by
  refine ⟨fun type => ?_, fun declared => lost_reportedType_iff declared v⟩
  rw [decodeCell_of_ne_null hv]
  refine ⟨decodeByType_eq_null_iff type hv, fun w h => h.decodeByType_eq, fun hlost hconverts => ?_⟩
  cases fate_decodeByType type hv with
  | converted h => exact absurd h (hconverts _)
  | kept h => exact h
  | lost h => exact absurd h hlost

/-- A blob stays a blob in a column of texts, a text becomes a date in a column of dates, and a
number is lost in a column of bytes. -/
theorem decodeCell_content_classes :
    Keeps "TEXT" (.blob [7]) (decodeCell "TEXT" (.blob [7])) ∧
      decodeCell "DATE" (.text "2024-03-09") = .date { year := 2024, month := 3, day := 9 } ∧
      decodeCell "BLOB" (.integer 5) = .null := by
  have hblob := (decodeCell_content (v := .blob [7]) nofun).1 "TEXT"
  have hdate := (decodeCell_content (v := .text "2024-03-09") nofun).1 "DATE"
  have hbytes := (decodeCell_content (v := .integer 5) nofun).1 "BLOB"
  have hkept (type : String) (w : Value) : ¬Converts type (.blob [7]) w := by
    intro h
    cases h
  have hfound : ¬Lost "TEXT" (.blob [7]) := by
    rw [lost_iff, IsTruthType]
    decide
  exact ⟨hblob.2.2 hfound (hkept "TEXT"), hdate.2.1 _ (.date (by rfl)), hbytes.1.mpr (.bytes rfl)⟩

/-- A number that is stored in a column of bytes comes back as null, and so does a text that is
stored in a column of truth values. -/
theorem decodeCell_lost :
    (Affinity.ofDeclared "BLOB").store (.integer 5) = .integer 5 ∧
      decodeCell (reportedType "BLOB") (.integer 5) = .null ∧
      (Affinity.ofDeclared "BOOLEAN").store (.text "yes") = .text "yes" ∧
      decodeCell (reportedType "BOOLEAN") (.text "yes") = .null := by
  exact ⟨by decide, by rfl, by decide, by rfl⟩

end SqlSchema.Sqlite
