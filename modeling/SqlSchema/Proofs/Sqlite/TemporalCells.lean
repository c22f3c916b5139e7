import SqlSchema.Proofs.Sqlite.Decode
import SqlSchema.Proofs.Temporal.RoundTrip

/-! # Dates and times through stored cells

The literal of a date or a time, stored as text, is decoded as the same date or time in a column of
its type: years of either sign, fractions of any length and leap seconds included. A moment with a
time zone comes back as its date and time in universal time. -/

namespace SqlSchema.Sqlite

open SqlSchema.Temporal

/-- The texts of some things, stored in the columns of a type, are decoded as values of them. The
type is the one under which the column is reported, or the one that it is declared with. -/
structure ReadBack {α : Type} (type : String) (text : α → String) (value : α → Value) : Prop where
  reported : ∀ a, decodeCell type (.text (text a)) = value a
  declared : ∀ a, decodeCell (reportedType type) (.text (text a)) = value a

theorem ReadBack.of_converts {α : Type} {type : String} {text : α → String} {value : α → Value}
    (hreported : ∀ a, Converts type (.text (text a)) (value a))
    (hdeclared : ∀ a, Converts (reportedType type) (.text (text a)) (value a)) :
    ReadBack type text value where
  reported a := (hreported a).decodeByType_eq
  declared a := (hdeclared a).decodeByType_eq

theorem readBack_date : ReadBack "DATE" Date.text .date := by
  have hread (d : Date) : Converts "DATE" (.text d.text) (.date d) := .date (d.read_text .strict)
  exact .of_converts hread hread

theorem readBack_time : ReadBack "TIME" Time.text .time := by
  have hread (t : Time) : Converts "TIME" (.text t.text) (.time t) := .time t.readFull_text
  exact .of_converts hread hread

theorem readBack_moment {type : String} (htype : type = "DATETIME" ∨ type = "TIMESTAMP") :
    ReadBack type DateTime.text .dateTime := by
  have hreported (m : DateTime) : Converts type (.text m.text) (.dateTime m) :=
    .moment htype m.readCell_text
  have hsame : reportedType type = "DATETIME" := by
    rcases htype with rfl | rfl <;> decide
  have hdeclared (m : DateTime) : Converts (reportedType type) (.text m.text) (.dateTime m) :=
    .moment (.inl hsame) m.readCell_text
  exact .of_converts hreported hdeclared

/-- What is read back is told apart by its text. -/
theorem ReadBack.injective {α : Type} {type : String} {text : α → String} {value : α → Value}
    (h : ReadBack type text value) (hvalue : Function.Injective value) :
    Function.Injective text := by
  intro a b hab
  apply hvalue
  rw [← h.reported a, hab, h.reported b]

/-- The literals of dates and times, stored as texts, are decoded as the values that they were
written for, those with a time zone as moments of universal time. Values of one kind with one
literal are the same. -/
theorem temporalLiterals_readBack :
    (ReadBack "DATE" (fun d => (Value.date d).literalText) .date ∧
      ReadBack "TIME" (fun t => (Value.time t).literalText) .time ∧
      ReadBack "DATETIME" (fun m => (Value.dateTime m).literalText) .dateTime ∧
      ReadBack "TIMESTAMP" (fun m => (Value.dateTime m).literalText) .dateTime ∧
      ReadBack "DATETIME" (fun m => (Value.dateTimeTz m).literalText) .dateTime ∧
      ReadBack "TIMESTAMP" (fun m => (Value.dateTimeTz m).literalText) .dateTime) ∧
    Function.Injective (fun d => (Value.date d).literalText) ∧
      Function.Injective (fun t => (Value.time t).literalText) ∧
      Function.Injective (fun m => (Value.dateTime m).literalText) ∧
      Function.Injective (fun m => (Value.dateTimeTz m).literalText) := by
  have hdateTime := readBack_moment (.inl rfl)
  have htimestamp := readBack_moment (.inr rfl)
  have hmoment : Function.Injective DateTime.text :=
    hdateTime.injective fun _ _ h => Value.dateTime.inj h
  refine ⟨⟨readBack_date, readBack_time, hdateTime, htimestamp, hdateTime, htimestamp⟩,
    readBack_date.injective fun _ _ h => Value.date.inj h,
    readBack_time.injective fun _ _ h => Value.time.inj h, hmoment, hmoment⟩

/-- A leap second before the common era. -/
example :
    let m : DateTime := ⟨{ year := -44, month := 3, day := 15 },
      { hour := 23, minute := 59, second := 59, nano := 1500000000 }⟩
    (Value.dateTime m).literalText = "-0044-03-15 23:59:60.500" ∧
      decodeCell "DATETIME" (.text "-0044-03-15 23:59:60.500") = .dateTime m := by
  exact ⟨rfl, rfl⟩

end SqlSchema.Sqlite
