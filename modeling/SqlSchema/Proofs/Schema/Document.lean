import SqlSchema.Proofs.Schema.TableDocument

/-! # Schemas as documents

A schema document is an object of table documents. It is accepted just when each of its tables is,
and is then read as its tables in order; otherwise the first table at fault decides the error. -/

namespace SqlSchema.Schema.Registry

open SqlSchema.Traversal

/-! ## Documents and what they describe -/

/-- A member describes a table under its name. -/
def IsTable (member : String × Json) (table : String × Table) : Prop :=
  table.1 = member.1 ∧ ∃ entries, member.2 = .object entries ∧ Table.Describes entries table.2

/-- A document describes a schema: its tables in order. -/
inductive Describes : Json → Registry → Prop where
  | object {members : List (String × Json)} {r : Registry}
      (tables : List.Forall₂ IsTable members r.tables) : Describes (.object members) r

/-- A document that is accepted: an object of table documents that are accepted. -/
inductive Accepts : Json → Prop where
  | object {members : List (String × Json)}
      (tables : ∀ member ∈ members, Table.Accepts member.2) : Accepts (.object members)

/-- What is wrong with a document: the first table at fault decides. -/
inductive DocumentFault : Json → SchemaError → Prop where
  | notObject {doc : Json} (hdoc : ∀ members, doc ≠ .object members) :
      DocumentFault doc (.invalidConfig .rootNotObject)
  | table {before after : List (String × Json)} {member : String × Json} {e : SchemaError}
      (hbefore : ∀ other ∈ before, ∀ e, ¬Table.DocumentFault other.1 other.2 e)
      (hmember : Table.DocumentFault member.1 member.2 e) :
      DocumentFault (.object (before ++ member :: after)) e

/-- The same document with the entries of some primary keys in other places of their tables. -/
inductive KeysMoved : Json → Json → Prop where
  | object {members members' : List (String × Json)}
      (htables : List.Forall₂ (fun member member' => member'.1 = member.1 ∧
        (member'.2 = member.2 ∨ Table.KeyMoved member.2 member'.2)) members members') :
      KeysMoved (.object members) (.object members')

/-! ## Members -/

variable {members : List (String × Json)} {r : Registry} {e : SchemaError}

theorem readMember_eq_ok_iff {member : String × Json} {table : String × Table} :
    readMember member = .ok table ↔
      table.1 = member.1 ∧ Table.ofJson member.1 member.2 = .ok table.2 := by
  rw [readMember, map_eq_ok_iff]
  constructor
  · rintro ⟨t, ht, rfl⟩
    exact ⟨rfl, ht⟩
  · rintro ⟨hname, ht⟩
    exact ⟨table.2, ht, Prod.ext hname.symm rfl⟩

theorem ofJson_object_eq_ok_iff :
    ofJson (.object members) = .ok r ↔
      List.Forall₂ (fun member table => readMember member = .ok table) members r.tables := by
  rw [ofJson, map_eq_ok_iff, ← mapM_eq_ok_iff]
  constructor
  · rintro ⟨tables, htables, rfl⟩
    exact htables
  · intro h
    exact ⟨r.tables, h, rfl⟩

theorem readMember_eq_error_iff {member : String × Json} (hdistinct : member.2.HasDistinctKeys) :
    readMember member = .error e ↔ Table.DocumentFault member.1 member.2 e := by
  rw [readMember, map_eq_error_iff, Table.ofJson_eq_error_iff hdistinct]

theorem exists_readMember_eq_ok_iff {member : String × Json} :
    (∃ table, readMember member = .ok table) ↔
      ∃ t, Table.ofJson member.1 member.2 = .ok t := by
  constructor
  · rintro ⟨table, h⟩
    exact ⟨table.2, (readMember_eq_ok_iff.mp h).2⟩
  · rintro ⟨t, h⟩
    exact ⟨(member.1, t), readMember_eq_ok_iff.mpr ⟨rfl, h⟩⟩

theorem isTable_of_readMember {member : String × Json} {table : String × Table}
    (hdistinct : member.2.HasDistinctKeys) (h : readMember member = .ok table) :
    IsTable member table := by
  obtain ⟨hname, ht⟩ := readMember_eq_ok_iff.mp h
  obtain ⟨entries, hentries, hdescribes, -⟩ := (Table.ofJson_eq_ok_iff hdistinct).mp ht
  exact ⟨hname, entries, hentries, hdescribes⟩

/-! ## Documents -/

theorem ofJson_of_forall_ne_object {doc : Json} (h : ∀ members, doc ≠ .object members) :
    ofJson doc = .error (.invalidConfig .rootNotObject) := by
  cases doc with
  | object members => exact absurd rfl (h members)
  | _ => rfl

section Document

variable {doc : Json} (hdistinct : doc.HasDistinctKeys)

include hdistinct

theorem exists_ofJson_eq_ok_iff : (∃ r, ofJson doc = .ok r) ↔ Accepts doc := by
  rcases (exists_or_forall_not (doc = .object ·)).symm with hdoc | ⟨members, rfl⟩
  · rw [ofJson_of_forall_ne_object hdoc]
    constructor
    · rintro ⟨_, ⟨⟩⟩
    · rintro ⟨⟩
      exact absurd rfl (hdoc _)
  have hmembers := (Json.hasDistinctKeys_object_iff.mp hdistinct).2
  have hall : (∃ r, ofJson (.object members) = .ok r) ↔
      ∀ member ∈ members, ∃ table, readMember member = .ok table := by
    rw [← exists_mapM_eq_ok_iff]
    simp only [ofJson, map_eq_ok_iff]
    grind
  rw [hall]
  constructor
  · intro h
    refine .object fun member hmember => ?_
    exact (Table.exists_ofJson_eq_ok_iff (hmembers member hmember)).mp
      (exists_readMember_eq_ok_iff.mp (h member hmember))
  · rintro ⟨htables⟩ member hmember
    exact exists_readMember_eq_ok_iff.mpr
      ((Table.exists_ofJson_eq_ok_iff (hmembers member hmember)).mpr (htables member hmember))

theorem describes_of_ofJson (h : ofJson doc = .ok r) : Describes doc r := by
  rcases (exists_or_forall_not (doc = .object ·)).symm with hdoc | ⟨members, rfl⟩
  · rw [ofJson_of_forall_ne_object hdoc] at h
    cases h
  have hmembers := (Json.hasDistinctKeys_object_iff.mp hdistinct).2
  have htables := (List.forall₂_and_left _ _).mpr ⟨hmembers, ofJson_object_eq_ok_iff.mp h⟩
  exact .object (htables.imp fun member table hmember => isTable_of_readMember hmember.1 hmember.2)

theorem ofJson_eq_error_iff : ofJson doc = .error e ↔ DocumentFault doc e := by
  rcases (exists_or_forall_not (doc = .object ·)).symm with hdoc | ⟨members, rfl⟩
  · rw [ofJson_of_forall_ne_object hdoc]
    constructor
    · rintro ⟨⟩
      exact .notObject hdoc
    · rintro (_ | _)
      · rfl
      · exact absurd rfl (hdoc _)
  have hmembers := (Json.hasDistinctKeys_object_iff.mp hdistinct).2
  have hfine : ∀ member ∈ members, (∃ table, readMember member = .ok table) ↔
      ∀ e, ¬Table.DocumentFault member.1 member.2 e := by
    intro member hmember
    rw [exists_eq_ok_iff]
    exact forall_congr' fun e => not_congr (readMember_eq_error_iff (hmembers member hmember))
  rw [ofJson, map_eq_error_iff, mapM_eq_error_iff]
  constructor
  · rintro ⟨before, member, after, rfl, hbefore, hmember⟩
    refine .table (fun other hother => ?_) ?_
    · exact (hfine other (List.mem_append_left _ hother)).mp (hbefore other hother)
    · exact (readMember_eq_error_iff (hmembers member List.mem_append_cons_self)).mp hmember
  · intro h
    cases h with
    | notObject hdoc => exact absurd rfl (hdoc _)
    | @table before after member _ hbefore hmember =>
        refine ⟨before, member, after, rfl, fun other hother => ?_, ?_⟩
        · exact (hfine other (List.mem_append_left _ hother)).mpr (hbefore other hother)
        · exact (readMember_eq_error_iff (hmembers member List.mem_append_cons_self)).mpr hmember

/-- A document is read as the same schema wherever the entries of its primary keys stand. -/
theorem KeysMoved.ofJson_eq_ok_iff {doc' : Json} (h : KeysMoved doc doc') :
    ofJson doc' = .ok r ↔ ofJson doc = .ok r := by
  obtain ⟨htables⟩ := h
  have hmembers := (Json.hasDistinctKeys_object_iff.mp hdistinct).2
  rw [ofJson_object_eq_ok_iff, ofJson_object_eq_ok_iff]
  generalize r.tables = tables
  clear hdistinct
  induction htables generalizing tables with
  | nil => rfl
  | @cons member member' members members' hmember htables ih =>
      obtain ⟨hfirst, hmembers⟩ := List.forall_mem_cons.mp hmembers
      have hread : ∀ table, readMember member' = .ok table ↔ readMember member = .ok table := by
        intro table
        rw [readMember_eq_ok_iff, readMember_eq_ok_iff, hmember.1]
        rcases hmember.2 with heq | hmoved
        · rw [heq]
        · rw [hmoved.ofJson_eq_ok_iff hfirst]
      simp only [List.forall₂_cons_left_iff, hread, ih hmembers]

end Document

/-- Documents are read exactly. One is accepted just when it is an object of tables that are
accepted; it then describes the schema that it is read as, in the order of its members. Where the
entry of a primary key stands makes no difference. What is refused is refused by the fault that is
found first. -/
theorem ofJson_exact {doc : Json} (hdistinct : doc.HasDistinctKeys) :
    ((∃ r, ofJson doc = .ok r) ↔ Accepts doc) ∧ (∀ r, ofJson doc = .ok r → Describes doc r) ∧
      (∀ doc', KeysMoved doc doc' → ∀ r, ofJson doc' = .ok r ↔ ofJson doc = .ok r) ∧
      ∀ e, ofJson doc = .error e ↔ DocumentFault doc e :=
  ⟨exists_ofJson_eq_ok_iff hdistinct, fun _ => describes_of_ofJson hdistinct,
    fun _ hmoved _ => hmoved.ofJson_eq_ok_iff hdistinct, fun _ => ofJson_eq_error_iff hdistinct⟩

/-- A primary key in front of its column and behind it, and the fault of a document with two. -/
theorem ofJson_exact_users :
    let key := (Table.primaryKeyMember, Json.text "id")
    let id := ("id", Json.object [("type", .text "INT"), ("nullable", .bool false)])
    let doc := Json.object [("users", .object [key, id]), ("tags", .object [])]
    let moved := Json.object [("users", .object [id, key]), ("tags", .object [])]
    let wrong := Json.object [("users", .object [key]), ("tags", .null)]
    let users : Table := ⟨[("id", { type := some "INT", nullable := false })], some "id"⟩
    let r : Registry := ⟨[("users", users), ("tags", .empty)]⟩
    doc.HasDistinctKeys ∧ wrong.HasDistinctKeys ∧ ofJson doc = .ok r ∧ Accepts doc ∧
      Describes doc r ∧ ofJson moved = .ok r ∧
      ofJson wrong = .error (.unknownPrimaryKey "users" "id") ∧
      DocumentFault wrong (.unknownPrimaryKey "users" "id") := by
  intro key id doc moved wrong users r
  have hdoc : doc.HasDistinctKeys := by
    simp [doc, key, id, Json.hasDistinctKeys_object_iff, Json.HasDistinctKeys.text,
      Json.HasDistinctKeys.bool, Table.primaryKeyMember]
  have hwrong : wrong.HasDistinctKeys := by
    simp [wrong, key, Json.hasDistinctKeys_object_iff, Json.HasDistinctKeys.text,
      Json.HasDistinctKeys.null]
  have hkey : Table.KeyMoved (.object ([] ++ key :: [id])) (.object ([id] ++ key :: [])) :=
    .moved rfl
  have hmoved : KeysMoved doc moved :=
    .object (.cons ⟨rfl, .inr hkey⟩ (.cons ⟨rfl, .inl rfl⟩ .nil))
  obtain ⟨haccepts, hdescribes, hplace, -⟩ := ofJson_exact hdoc
  have hread : ofJson doc = .ok r := rfl
  have hrefused : ofJson wrong = .error (.unknownPrimaryKey "users" "id") := rfl
  exact ⟨hdoc, hwrong, hread, haccepts.mp ⟨r, hread⟩, hdescribes r hread,
    (hplace moved hmoved r).mpr hread, hrefused, ((ofJson_exact hwrong).2.2.2 _).mp hrefused⟩

end SqlSchema.Schema.Registry
