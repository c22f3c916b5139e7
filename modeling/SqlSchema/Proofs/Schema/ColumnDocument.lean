import SqlSchema.Proofs.Decode
import SqlSchema.Proofs.Number.Rounding
import SqlSchema.Schema.Column

/-! # Columns as documents

A column is read back from its document as it was, whatever document it was read from. The document
of a default is read by the alternative that the default is of, and a column that was read from
finite numbers is written with finite numbers. -/

namespace SqlSchema

open SqlSchema.Decode SqlSchema.Number SqlSchema.Traversal

namespace Json

/-- A document as texts spell it: the integers fit a word of 64 bits with or without a sign, and the
other numbers are finite. -/
inductive IsSpelled : Json → Prop where
  | null : IsSpelled .null
  | bool (value : Bool) : IsSpelled (.bool value)
  | integer {value : Int} (hleast : -(powerOfTwo 63 : Int) ≤ value)
      (hgreatest : value < powerOfTwo 64) : IsSpelled (.integer value)
  | float {value : Double} (hfinite : value.isFinite = true) : IsSpelled (.float value)
  | text (value : String) : IsSpelled (.text value)
  | list {items : List Json} (hitems : ∀ item ∈ items, IsSpelled item) : IsSpelled (.list items)
  | object {members : List (String × Json)} (hmembers : ∀ member ∈ members, IsSpelled member.2) :
      IsSpelled (.object members)

end Json

namespace Decode

variable {α : Type} {name : String} {default a : α} {decode : Decoder α}

theorem nullable_of_ne_null {doc : Json} (h : doc ≠ .null) :
    nullable decode doc = (decode doc).map some := by
  cases doc <;> first | rfl | exact absurd rfl h

theorem nullable_getD {encode : α → Json} (hne : ∀ a, encode a ≠ .null)
    (h : ∀ a, decode (encode a) = .ok a) (value : Option α) :
    nullable decode ((value.map encode).getD .null) = .ok value := by
  cases value with
  | none => rfl
  | some a => exact (nullable_of_ne_null (hne a)).trans (congrArg _ (h a))

/-- A field that has a default is read from a member, or is the default. -/
theorem defaulted_eq_ok {members : List (String × Json)}
    (h : defaulted name default decode members = .ok a) :
    a = default ∨ ∃ doc, (name, doc) ∈ members ∧ decode doc = .ok a := by
  rw [defaulted] at h
  split at h
  next doc hdoc => exact .inr ⟨doc, Keyed.mem_of_get? hdoc, h⟩
  next => exact .inl (Except.ok.inj h).symm

end Decode

namespace Schema

theorem nullable_optionalText (s : Option String) :
    nullable Decode.text (optionalText s) = .ok s := by
  cases s <;> rfl

theorem isSpelled_optionalText (s : Option String) : (optionalText s).IsSpelled := by
  cases s with
  | none => exact .null
  | some s => exact .text s

/-! ## References -/

namespace Reference

def memberNames : List String :=
  ["table", "column", "on_delete", "on_update"]

theorem ofJson_toJson (r : Reference) : ofJson r.toJson = .ok r := by
  simp [ofJson, toJson, record, recordOfMembers, checkMembers, Field.of, defaulted, Keyed.get?,
    nullable_optionalText, bind, Except.bind, Except.map, pure, Except.pure]

theorem isSpelled_toJson (r : Reference) : r.toJson.IsSpelled := by
  refine .object ?_
  simp [isSpelled_optionalText]

/-- Neither the order of the members nor others change what reference is read. -/
theorem ofJson_object_of_rearranges {members members' : List (String × Json)} {r : Reference}
    (h : Keyed.Rearranges memberNames members members') :
    ofJson (.object members') = .ok r ↔ ofJson (.object members) = .ok r := by
  simp only [ofJson, record]
  refine recordOfMembers_eq_ok_iff_of_rearranges ?_ h
  intro members members' hfields
  simp only [List.map_cons, List.map_nil, List.forall_mem_cons, Field.of] at hfields
  obtain ⟨htable, hcolumn, hdelete, hupdate, -⟩ := hfields
  simp only [defaulted, htable, hcolumn, hdelete, hupdate]

end Reference

/-! ## Defaults -/

namespace DefaultValue

variable {d : DefaultValue}

/-- No default is taken for one of another kind. -/
theorem ofJson_toJson (d : DefaultValue) : ofJson d.toJson = .ok d := by
  cases d with
  | bool b => rfl
  | integer n => rw [toJson, ofJson, int64?_toInt]
  | float x => rfl
  | text s => rfl
  | expression sql => rfl

theorem toJson_ne_null (d : DefaultValue) : d.toJson ≠ .null := by
  cases d <;> simp [toJson]

/-- An integer that does not fit a word with a sign is rounded, and not to infinity. -/
theorem isSpelled_toJson {doc : Json} (hdoc : doc.IsSpelled) (h : ofJson doc = .ok d) :
    d.toJson.IsSpelled := by
  cases hdoc with
  | null => cases h
  | bool b =>
      cases h
      exact .bool b
  | @integer n hleast hgreatest =>
      rw [ofJson] at h
      split at h
      next word hword =>
        cases h
        have hbelow := word.toInt_lt
        exact .integer word.le_toInt (by simp only [powerOfTwo, Nat.pow_eq]; omega)
      next =>
        cases h
        refine .float (Binary.isFinite_ofInt ?_)
        simp only [powerOfTwo, Nat.pow_eq] at hleast hgreatest ⊢
        omega
  | float hfinite =>
      cases h
      exact .float hfinite
  | text s =>
      cases h
      exact .text s
  | list hitems => cases h
  | object hmembers =>
      rw [ofJson] at h
      split at h
      next sql _ =>
        cases h
        exact .object (by simp [Json.IsSpelled.text])
      next => cases h

end DefaultValue

/-! ## Columns -/

namespace Column

variable {c : Column}

def memberNames : List String :=
  ["type", "nullable", "unique", "auto_increment", "default", "foreign_key"]

theorem ofJson_toJson (c : Column) : ofJson c.toJson = .ok c := by
  have hdefault : Decode.nullable DefaultValue.ofJson
      ((c.default.map DefaultValue.toJson).getD .null) = .ok c.default :=
    nullable_getD DefaultValue.toJson_ne_null DefaultValue.ofJson_toJson c.default
  have hreference : Decode.nullable Reference.ofJson
      ((c.foreignKey.map Reference.toJson).getD .null) = .ok c.foreignKey :=
    nullable_getD (fun r => by simp [Reference.toJson]) Reference.ofJson_toJson c.foreignKey
  simp [ofJson, toJson, record, recordOfMembers, checkMembers, Field.of, defaulted, Keyed.get?,
    nullable_optionalText, Decode.bool, hdefault, hreference, bind, Except.bind, Except.map, pure,
    Except.pure]

/-- Neither the order of the members nor others change what column is read. -/
theorem ofJson_object_of_rearranges {members members' : List (String × Json)}
    (h : Keyed.Rearranges memberNames members members') :
    ofJson (.object members') = .ok c ↔ ofJson (.object members) = .ok c := by
  simp only [ofJson, record]
  refine recordOfMembers_eq_ok_iff_of_rearranges ?_ h
  intro members members' hfields
  simp only [List.forall_mem_cons, Field.of] at hfields
  obtain ⟨htype, hnullable, hunique, hincrement, hdefault, hreference, -⟩ := hfields
  simp only [defaulted, htype, hnullable, hunique, hincrement, hdefault, hreference]

/-- A list is read as the object of its items under the names of the members. -/
theorem ofJson_list_eq_ok_iff {items : List Json} :
    ofJson (.list items) = .ok c ↔
      items.length ≤ 6 ∧ ofJson (.object (memberNames.zip items)) = .ok c := by
  simp only [ofJson, record]
  exact recordOfItems_eq_ok_iff

/-- The default of an object is read from a member. -/
theorem isSpelled_default {members : List (String × Json)}
    (hmembers : ∀ member ∈ members, member.2.IsSpelled) (h : ofJson (.object members) = .ok c) :
    ∀ d ∈ c.default, d.toJson.IsSpelled := by
  simp only [ofJson, record] at h
  obtain ⟨-, h⟩ := recordOfMembers_eq_ok_iff.mp h
  obtain ⟨type, -, h⟩ := bind_eq_ok_iff.mp h
  obtain ⟨isNullable, -, h⟩ := bind_eq_ok_iff.mp h
  obtain ⟨unique, -, h⟩ := bind_eq_ok_iff.mp h
  obtain ⟨autoIncrement, -, h⟩ := bind_eq_ok_iff.mp h
  obtain ⟨default, hdefault, h⟩ := bind_eq_ok_iff.mp h
  obtain ⟨foreignKey, -, h⟩ := bind_eq_ok_iff.mp h
  cases h
  intro d hd
  obtain rfl : default = some d := hd
  rcases defaulted_eq_ok hdefault with hnone | ⟨doc, hmem, hdoc⟩
  · cases hnone
  · have hspelled := hmembers _ hmem
    by_cases hnull : doc = .null
    · rw [hnull] at hdoc
      cases hdoc
    · rw [nullable_of_ne_null hnull] at hdoc
      obtain ⟨value, hvalue, hsome⟩ := map_eq_ok_iff.mp hdoc
      obtain rfl := Option.some.inj hsome
      exact DefaultValue.isSpelled_toJson hspelled hvalue

/-- A column that is read from spelled numbers is written with spelled numbers. -/
theorem isSpelled_toJson {doc : Json} (hdoc : doc.IsSpelled) (h : ofJson doc = .ok c) :
    c.toJson.IsSpelled := by
  have hdefault : ∀ d ∈ c.default, d.toJson.IsSpelled := by
    cases hdoc with
    | object hmembers => exact isSpelled_default hmembers h
    | list hitems =>
        refine isSpelled_default ?_ (ofJson_list_eq_ok_iff.mp h).2
        intro member hmember
        exact hitems _ (List.of_mem_zip hmember).2
    | null => cases h
    | bool b => cases h
    | integer => cases h
    | float => cases h
    | text s => cases h
  refine .object ?_
  simp only [List.forall_mem_cons]
  refine ⟨isSpelled_optionalText _, .bool _, .bool _, .bool _, ?_, ?_, by simp⟩
  · cases hvalue : c.default with
    | none => exact .null
    | some d => exact hdefault d hvalue
  · cases c.foreignKey with
    | none => exact .null
    | some r => exact r.isSpelled_toJson

/-- A column that was read from a document is read back as it was, and its document holds finite
numbers if the one it was read from did. So columns are told apart by their documents. The order of
the members and members of other names do not change what column is read, and a list is read as the
object of its items. -/
theorem description_readBack :
    (∀ (doc : Json) (c : Column), ofJson doc = .ok c →
        ofJson c.toJson = .ok c ∧ (doc.IsSpelled → c.toJson.IsSpelled))
      ∧ (∀ d : DefaultValue, DefaultValue.ofJson d.toJson = .ok d)
      ∧ (∀ c c' : Column, c.toJson = c'.toJson ↔ c = c')
      ∧ (∀ (members members' : List (String × Json)) (c : Column),
          Keyed.Rearranges memberNames members members' →
            (ofJson (.object members') = .ok c ↔ ofJson (.object members) = .ok c))
      ∧ (∀ (members members' : List (String × Json)) (r : Reference),
          Keyed.Rearranges Reference.memberNames members members' →
            (Reference.ofJson (.object members') = .ok r ↔
              Reference.ofJson (.object members) = .ok r))
      ∧ ∀ (items : List Json) (c : Column), ofJson (.list items) = .ok c ↔
          items.length ≤ 6 ∧ ofJson (.object (memberNames.zip items)) = .ok c := by
  refine ⟨fun doc c h => ⟨c.ofJson_toJson, fun hdoc => isSpelled_toJson hdoc h⟩,
    DefaultValue.ofJson_toJson, ?_, fun _ _ _ => ofJson_object_of_rearranges,
    fun _ _ _ => Reference.ofJson_object_of_rearranges, fun _ _ => ofJson_list_eq_ok_iff⟩
  intro c c'
  constructor
  · intro h
    have hread := c.ofJson_toJson
    rw [h, c'.ofJson_toJson] at hread
    exact (Except.ok.inj hread).symm
  · rintro rfl
    rfl

/-- A list whose default is past the words with a sign, and an object in two orders. -/
theorem description_readBack_forms :
    let items : List Json :=
      [.text "INT", .bool false, .bool true, .bool false, .integer 9223372036854775808]
    let c : Column :=
      { type := some "INT", nullable := false, unique := true,
        default := some (.float (.ofInt 9223372036854775808)) }
    let reference : Json := .object [("table", .text "users")]
    let members := [("foreign_key", reference), ("type", .text "INT")]
    let members' := [("type", .text "INT"), ("comment", .null), ("foreign_key", reference)]
    let c' : Column :=
      { type := some "INT", foreignKey := some { table := some "users" } }
    ofJson (.list items) = .ok c ∧ ofJson c.toJson = .ok c ∧ c.toJson.IsSpelled ∧
      ofJson (.object members) = .ok c' ∧ ofJson (.object members') = .ok c' := by
  intro items c reference members members' c'
  obtain ⟨hread, -, -, hrearranged, -⟩ := description_readBack
  have hitems : ofJson (.list items) = .ok c := by
    rfl
  have hspelled : (Json.list items).IsSpelled := by
    refine .list ?_
    simp only [items, List.forall_mem_cons]
    exact ⟨.text _, .bool _, .bool _, .bool _, .integer (by decide) (by decide), by simp⟩
  have hmembers : ofJson (.object members) = .ok c' := by
    rfl
  have hsame : Keyed.Rearranges memberNames members members' := by
    refine ⟨by decide, [("comment", .null)], ?_, by decide⟩
    exact .trans (.cons _ (.swap _ _ _)) (.swap _ _ _)
  obtain ⟨hback, hwritten⟩ := hread _ _ hitems
  exact ⟨hitems, hback, hwritten hspelled, hmembers,
    (hrearranged members members' c' hsame).mpr hmembers⟩

end Column

end Schema

end SqlSchema
