import SqlSchema.Proofs.Schema.Document

/-! # Schemas that can be made

However a schema is made, by registering tables or from a document, its tables have distinct names,
so have the columns of each table, and a primary key is one of the columns. To compile a schema is
then to compile its tables one by one, and only a column can make that fail. -/

namespace SqlSchema.Schema

open SqlSchema.Traversal

/-! ## Tables -/

namespace Table

variable {name : String} {t : Table}

/-- The tables that columns and primary keys, set in any order, lead to. -/
inductive Built : Table → Prop where
  | empty : Built .empty
  | withColumn {t : Table} (h : Built t) (name : String) (column : Column) :
      Built (t.withColumn name column)
  | withPrimaryKey {t : Table} (h : Built t) (column : String) : Built (t.withPrimaryKey column)

/-- Columns have distinct names, and a primary key is one of them. -/
structure WellFormed (t : Table) : Prop where
  names : (Keyed.names t.columns).Nodup
  primaryKey : ∀ key ∈ t.primaryKey, key ∈ Keyed.names t.columns

theorem Built.nodup_names (h : t.Built) : (Keyed.names t.columns).Nodup := by
  induction h with
  | empty => exact List.nodup_nil
  | withColumn _ name column ih => exact Keyed.nodup_names_put column ih
  | withPrimaryKey _ column ih => exact ih

theorem Built.wellFormed (h : t.Built) (hvalid : t.validate name = .ok ()) : t.WellFormed :=
  ⟨h.nodup_names, validate_eq_ok_iff.mp hvalid⟩

theorem WellFormed.validate_eq_ok (h : t.WellFormed) (name : String) : t.validate name = .ok () :=
  validate_eq_ok_iff.mpr h.primaryKey

theorem Built.addMember {entry : String × Json} {t' : Table} (h : t.Built)
    (hread : addMember name t entry = .ok t') : t'.Built := by
  rcases addMember_eq_ok_iff.mp hread with ⟨-, key, -, rfl⟩ | ⟨-, column, -, rfl⟩
  · exact h.withPrimaryKey key
  · exact h.withColumn entry.1 column

theorem Built.foldlM_addMember {entries : List (String × Json)} {t' : Table} (h : t.Built)
    (hread : entries.foldlM (Table.addMember name) t = .ok t') : t'.Built := by
  induction entries generalizing t with
  | nil => exact Except.ok.inj hread ▸ h
  | cons entry entries ih =>
      rw [List.foldlM_cons] at hread
      obtain ⟨next, hentry, hentries⟩ := bind_eq_ok_iff.mp hread
      exact ih (h.addMember hentry) hentries

/-- A document leads to no other tables, and only to valid ones. -/
theorem built_of_ofJson {doc : Json} (h : ofJson name doc = .ok t) :
    t.Built ∧ t.validate name = .ok () := by
  rcases exists_or_forall_not (doc = .object ·) with ⟨entries, rfl⟩ | hdoc
  · obtain ⟨read, hread, h⟩ := bind_eq_ok_iff.mp h
    obtain ⟨⟨⟩, hvalid, h⟩ := bind_eq_ok_iff.mp h
    obtain rfl := Except.ok.inj h
    exact ⟨Built.empty.foldlM_addMember hread, hvalid⟩
  · rw [ofJson_of_forall_ne_object hdoc] at h
    cases h

end Table

/-! ## Schemas -/

namespace Registry

variable {r : Registry} {name : String} {escape : Escaper}

/-- The schemas that can be made: tables registered in any order, and documents. -/
inductive Reachable : Registry → Prop where
  | empty : Reachable .empty
  | withTable {r r' : Registry} {name : String} {t : Table} (h : Reachable r) (ht : t.Built)
      (hr : r.withTable name t = .ok r') : Reachable r'
  | ofJson {doc : Json} {r : Registry} (hdistinct : doc.HasDistinctKeys)
      (hr : ofJson doc = .ok r) : Reachable r
  | ofText {s : String} {r : Registry} (hr : ofText s = .ok r) : Reachable r
  | ofPath {d : Directory} {path : String} {r : Registry} (hr : ofPath d path = .ok r) : Reachable r

/-- Tables have distinct names, and each is well formed. -/
structure WellFormed (r : Registry) : Prop where
  names : r.tableNames.Nodup
  tables : ∀ entry ∈ r.tables, entry.2.WellFormed

theorem withTable_eq_ok_iff {t : Table} {r' : Registry} :
    r.withTable name t = .ok r' ↔
      t.validate name = .ok () ∧ r' = ⟨Keyed.put name t r.tables⟩ := by
  constructor
  · intro h
    obtain ⟨⟨⟩, hvalid, h⟩ := bind_eq_ok_iff.mp h
    exact ⟨hvalid, (Except.ok.inj h).symm⟩
  · rintro ⟨hvalid, rfl⟩
    exact bind_eq_ok_iff.mpr ⟨(), hvalid, rfl⟩

theorem WellFormed.withTable {t : Table} {r' : Registry} (h : r.WellFormed) (ht : t.Built)
    (hr : r.withTable name t = .ok r') : r'.WellFormed := by
  obtain ⟨hvalid, rfl⟩ := withTable_eq_ok_iff.mp hr
  refine ⟨Keyed.nodup_names_put t h.names, fun entry hentry => ?_⟩
  rcases Keyed.eq_or_mem_of_mem_put hentry with rfl | hentry
  · exact ht.wellFormed hvalid
  · exact h.tables entry hentry

theorem names_eq_of_readMember {members : List (String × Json)} {tables : List (String × Table)}
    (h : List.Forall₂ (fun member table => readMember member = .ok table) members tables) :
    Keyed.names tables = Keyed.names members :=
  Keyed.names_eq_of_forall₂ (fun _ _ hmember => (readMember_eq_ok_iff.mp hmember).1) h

theorem wellFormed_of_readMember {member : String × Json} {table : String × Table}
    (h : readMember member = .ok table) : table.2.WellFormed := by
  obtain ⟨hbuilt, hvalid⟩ := Table.built_of_ofJson (readMember_eq_ok_iff.mp h).2
  exact hbuilt.wellFormed hvalid

theorem wellFormed_of_ofJson {doc : Json} (hdistinct : doc.HasDistinctKeys)
    (hr : ofJson doc = .ok r) : r.WellFormed := by
  rcases exists_or_forall_not (doc = .object ·) with ⟨members, rfl⟩ | hdoc
  · have htables := ofJson_object_eq_ok_iff.mp hr
    refine ⟨?_, forall_mem_of_mapM_eq_ok (fun _ _ => wellFormed_of_readMember)
      (mapM_eq_ok_iff.mpr htables)⟩
    rw [tableNames, names_eq_of_readMember htables]
    exact (Json.hasDistinctKeys_object_iff.mp hdistinct).1
  · rw [ofJson_of_forall_ne_object hdoc] at hr
    cases hr

theorem ofText_eq_ok_iff {s : String} :
    ofText s = .ok r ↔ ∃ doc, Json.parse s = .ok doc ∧ ofJson doc = .ok r := by
  unfold ofText
  cases Json.parse s <;> simp

theorem ofPath_eq_ok {d : Directory} {path : String} (hr : ofPath d path = .ok r) :
    ∃ s, ofText s = .ok r := by
  unfold ofPath at hr
  split at hr
  · cases hr
  · split at hr
    · exact ⟨_, hr⟩
    · cases hr

theorem Reachable.wellFormed (h : Reachable r) : r.WellFormed := by
  have htext : ∀ {s r}, Registry.ofText s = .ok r → r.WellFormed := by
    intro s r hr
    obtain ⟨doc, hdoc, hr⟩ := ofText_eq_ok_iff.mp hr
    exact wellFormed_of_ofJson (Json.hasDistinctKeys_of_parse hdoc) hr
  induction h with
  | empty => exact ⟨List.nodup_nil, by rintro entry ⟨⟩⟩
  | withTable _ ht hr ih => exact ih.withTable ht hr
  | ofJson hdistinct hr => exact wellFormed_of_ofJson hdistinct hr
  | ofText hr => exact htext hr
  | ofPath hr =>
      obtain ⟨s, hr⟩ := ofPath_eq_ok hr
      exact htext hr

/-! ## Tables one by one -/

def registerMember (r : Registry) (member : String × Json) : Except SchemaError Registry := do
  let t ← Table.ofJson member.1 member.2
  r.withTable member.1 t

def registerEach : Json → Except SchemaError Registry
  | .object members => members.foldlM registerMember empty
  | _ => .error (.invalidConfig .rootNotObject)

theorem foldlM_registerMember {members : List (String × Json)} {tables : List (String × Table)}
    (h : List.Forall₂ (fun member table => readMember member = .ok table) members tables)
    (r : Registry) : members.foldlM registerMember r = .ok ⟨Keyed.putAll tables r.tables⟩ := by
  induction h generalizing r with
  | nil => rfl
  | @cons member table members tables hmember _ ih =>
      obtain ⟨hname, ht⟩ := readMember_eq_ok_iff.mp hmember
      have hregistered : registerMember r member = .ok ⟨Keyed.put table.1 table.2 r.tables⟩ :=
        bind_eq_ok_iff.mpr ⟨table.2, ht,
          withTable_eq_ok_iff.mpr ⟨(Table.built_of_ofJson ht).2, by rw [hname]⟩⟩
      rw [List.foldlM_cons, hregistered]
      exact ih _

/-- Registering the tables of a document one by one leads to its schema. -/
theorem registerEach_of_ofJson {doc : Json} (hdistinct : doc.HasDistinctKeys)
    (hr : ofJson doc = .ok r) : registerEach doc = .ok r := by
  rcases exists_or_forall_not (doc = .object ·) with ⟨members, rfl⟩ | hdoc
  · have hnames : (Keyed.names (empty.tables ++ r.tables)).Nodup :=
      (wellFormed_of_ofJson hdistinct hr).names
    rw [registerEach, foldlM_registerMember (ofJson_object_eq_ok_iff.mp hr),
      Keyed.putAll_of_nodup hnames]
    rfl
  · rw [ofJson_of_forall_ne_object hdoc] at hr
    cases hr

/-! ## Statements -/

theorem get_eq_error_iff {e : SchemaError} :
    r.get name = .error e ↔ r.contains name = false ∧ e = .unknownTable name := by
  unfold get contains Keyed.contains
  cases Keyed.get? name r.tables <;> simp [eq_comm]

theorem mem_of_get_eq_ok {t : Table} (h : r.get name = .ok t) : (name, t) ∈ r.tables := by
  unfold get at h
  split at h
  · rename_i table hget
    obtain rfl := Except.ok.inj h
    exact Keyed.mem_of_get? hget
  · cases h

section Compiling

variable (h : r.WellFormed) {e : SchemaError}

include h

theorem WellFormed.get_of_mem {entry : String × Table} (hentry : entry ∈ r.tables) :
    r.get entry.1 = .ok entry.2 := by
  rw [get, Keyed.get?_of_mem h.names hentry]

/-- Only a name that is not registered and a column with a defect make a statement fail. -/
theorem WellFormed.compile_eq_error_iff :
    r.compile escape name = .error e ↔ (r.contains name = false ∧ e = .unknownTable name) ∨
      ∃ t, r.get name = .ok t ∧ t.clauses escape name = .error e := by
  unfold compile
  rw [bind_eq_error_iff, get_eq_error_iff]
  refine or_congr Iff.rfl (exists_congr fun t => and_congr_right fun hget => ?_)
  rw [(h.tables _ (mem_of_get_eq_ok hget)).validate_eq_ok name]
  change (t.clauses escape name).map (createStatement escape name) = .error e ↔ _
  exact map_eq_error_iff

theorem WellFormed.compile_ne_unknownPrimaryKey (table key : String) :
    r.compile escape name ≠ .error (.unknownPrimaryKey table key) := by
  rw [ne_eq, h.compile_eq_error_iff]
  rintro (⟨-, ⟨⟩⟩ | ⟨t, -, ht⟩)
  exact Table.clauses_eq_error ht

theorem WellFormed.compile_eq_unknownTable_iff (table : String) :
    r.compile escape name = .error (.unknownTable table) ↔
      r.contains name = false ∧ table = name := by
  rw [h.compile_eq_error_iff]
  constructor
  · rintro (⟨hname, ⟨⟩⟩ | ⟨t, -, ht⟩)
    · exact ⟨hname, rfl⟩
    · exact (Table.clauses_eq_error ht).elim
  · rintro ⟨hname, rfl⟩
    exact .inl ⟨hname, rfl⟩

theorem WellFormed.compileAll_ne_unknownTable (table : String) :
    r.compileAll escape ≠ .error (.unknownTable table) := by
  intro hall
  obtain ⟨before, name, after, hnames, -, hname⟩ := mapM_eq_error_iff.mp hall
  have hmem : name ∈ r.tableNames := hnames ▸ List.mem_append_cons_self
  have hheld : r.contains name = true := (Keyed.contains_iff name r.tables).mpr hmem
  rw [((h.compile_eq_unknownTable_iff table).mp hname).1] at hheld
  cases hheld

end Compiling

/-- What is compiled under a rule is what is registered. A statement fails for a missing table just
when its name is not registered and never for its primary key; all statements together are the
statements of the names in order, or fail as the first of them that fails. -/
structure CompilesTables (escape : Escaper) (r : Registry) : Prop where
  unknownPrimaryKey : ∀ name table key,
    r.compile escape name ≠ .error (.unknownPrimaryKey table key)
  unknownTable : ∀ name table, r.compile escape name = .error (.unknownTable table) ↔
    r.contains name = false ∧ table = name
  all_unknownTable : ∀ table, r.compileAll escape ≠ .error (.unknownTable table)
  exists_all : (∃ statements, r.compileAll escape = .ok statements) ↔
    ∀ name ∈ r.tableNames, ∃ statement, r.compile escape name = .ok statement
  all : ∀ statements, r.compileAll escape = .ok statements ↔
    List.Forall₂ (fun name statement => r.compile escape name = .ok statement)
      r.tableNames statements
  all_error : ∀ e, r.compileAll escape = .error e ↔
    ∃ before name after, r.tableNames = before ++ name :: after ∧
      (∀ other ∈ before, ∃ statement, r.compile escape other = .ok statement) ∧
      r.compile escape name = .error e

theorem WellFormed.compilesTables (h : r.WellFormed) (escape : Escaper) :
    r.CompilesTables escape where
  unknownPrimaryKey _ := h.compile_ne_unknownPrimaryKey
  unknownTable _ := h.compile_eq_unknownTable_iff
  all_unknownTable := h.compileAll_ne_unknownTable
  exists_all := exists_mapM_eq_ok_iff
  all _ := mapM_eq_ok_iff
  all_error _ := mapM_eq_error_iff

/-- Every schema that can be made has distinct names of tables, distinct names of columns in each
table, and primary keys that are columns. So the table under each of its names is the one registered
there, and it compiles table by table under any rule. The schema of a document is the one that its
tables lead to when they are registered one by one. -/
theorem reachable_compilesTables :
    (∀ r, Reachable r → r.WellFormed ∧
      r.tableNames.map r.get = r.tables.map (fun entry => .ok entry.2) ∧
      ∀ escape, CompilesTables escape r) ∧
    ∀ doc r, doc.HasDistinctKeys → ofJson doc = .ok r → registerEach doc = .ok r := by
  refine ⟨fun r hr => ⟨hr.wellFormed, ?_, hr.wellFormed.compilesTables⟩,
    fun doc r => registerEach_of_ofJson⟩
  rw [tableNames, Keyed.names, List.map_map]
  exact List.map_congr_left fun entry hentry => hr.wellFormed.get_of_mem hentry

/-- A table that replaces another, its primary key named before its column, and a document of it. -/
theorem reachable_compilesTables_users :
    let users := (Table.empty.withPrimaryKey "id").withColumn "id" (Column.ofType "INT")
    let posts := Table.empty.withColumn "body" {}
    let r : Registry := ⟨[("users", users), ("posts", posts)]⟩
    let doc := Json.object [("users",
      .object [(Table.primaryKeyMember, .text "id"), ("id", .object [("type", .text "INT")])])]
    Reachable r ∧ r.WellFormed ∧ r.tableNames.map r.get = [.ok users, .ok posts] ∧
      CompilesTables Backend.sqlite.escape r ∧
      doc.HasDistinctKeys ∧ ofJson doc = .ok ⟨[("users", users)]⟩ ∧
      registerEach doc = .ok ⟨[("users", users)]⟩ := by
  intro users posts r doc
  have hposts : posts.Built := .withColumn .empty _ _
  have hreachable : Reachable r := by
    have hempty : Reachable ⟨[("users", .empty)]⟩ := .withTable .empty .empty rfl
    have hboth : Reachable ⟨[("users", .empty), ("posts", posts)]⟩ :=
      @Reachable.withTable _ _ "posts" posts hempty hposts rfl
    have husers : users.Built := (Table.Built.empty.withPrimaryKey "id").withColumn _ _
    exact @Reachable.withTable _ _ "users" users hboth husers rfl
  have hdoc : doc.HasDistinctKeys := by
    simp [doc, Json.hasDistinctKeys_object_iff, Json.HasDistinctKeys.text, Table.primaryKeyMember]
  have hread : ofJson doc = .ok ⟨[("users", users)]⟩ := rfl
  obtain ⟨hwellFormed, hget, hcompiles⟩ := reachable_compilesTables.1 r hreachable
  exact ⟨hreachable, hwellFormed, hget, hcompiles Backend.sqlite.escape, hdoc, hread,
    reachable_compilesTables.2 doc _ hdoc hread⟩

end Registry

end SqlSchema.Schema
