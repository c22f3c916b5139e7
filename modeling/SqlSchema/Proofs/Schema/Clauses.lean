import SqlSchema.Proofs.Schema.ForeignKey
import SqlSchema.Schema.Ddl

/-! # What a table compiles to

A table that compiles gives one clause for each column, one for its primary key, and one for each
foreign key that a column declares, each in the order of the columns. A table that does not compile
has a column with a defect, or a primary key that is none of its columns. -/

namespace SqlSchema.Schema

open SqlSchema.Traversal

variable {escape : Escaper}

def SchemaError.IsColumnDefect : SchemaError → Prop
  | .missingType _ | .missingField _ _ | .invalidAction _ _ _ _ => True
  | .unknownTable _ | .unknownPrimaryKey _ _ | .invalidConfig _ => False

/-! ## Foreign keys -/

namespace ForeignKey

variable {localColumn : String} {r : Reference}

/-- A foreign key has the names of its reference, without the blanks around them. -/
theorem ofReference_eq_ok {k : ForeignKey} (h : ofReference localColumn r = .ok k) :
    k.localColumn = localColumn ∧ (∃ s ∈ r.table, k.table = Text.trim s) ∧
      ∃ s ∈ r.column, k.column = Text.trim s := by
  have hdescribed := ofReference_eq_ok_iff.mp h
  obtain ⟨table, htable, -, htrimmed⟩ := hdescribed.table
  obtain ⟨column, hcolumn, -, htrimmed'⟩ := hdescribed.column
  exact ⟨hdescribed.localColumn, ⟨table, htable, htrimmed.symm⟩, column, hcolumn, htrimmed'.symm⟩

theorem ofReference_eq_error {e : SchemaError} (h : ofReference localColumn r = .error e) :
    e.IsColumnDefect := by
  cases ofReference_eq_error_iff.mp h <;> trivial

end ForeignKey

/-! ## Columns -/

def columnClause (escape : Escaper) (primaryKey : Option String) (entry : String × Column) :
    String :=
  entry.2.clause escape entry.1 (entry.2.type.getD "") (primaryKey == some entry.1)

/-- The foreign key of a column, if it declares one. -/
def columnKey (entry : String × Column) : Option ForeignKey :=
  entry.2.foreignKey.bind fun reference => (ForeignKey.ofReference entry.1 reference).toOption

section Columns

variable {primaryKey : Option String} {entry : String × Column}

theorem compileColumn_eq_ok {compiled : String × Option ForeignKey}
    (h : compileColumn escape primaryKey entry = .ok compiled) :
    entry.2.type.isSome ∧
      (∀ reference ∈ entry.2.foreignKey,
        ∃ key, ForeignKey.ofReference entry.1 reference = .ok key) ∧
      compiled = (columnClause escape primaryKey entry, columnKey entry) := by
  unfold compileColumn at h
  unfold columnClause columnKey
  split at h
  · cases h
  · rename_i type htype
    dsimp only at h
    split at h
    · rename_i hkey
      cases h
      simp [htype, hkey]
    · rename_i reference hkey
      obtain ⟨key, hreference, rfl⟩ := map_eq_ok_iff.mp h
      simp [htype, hkey, hreference, Except.toOption]

theorem compileColumn_eq_error {e : SchemaError}
    (h : compileColumn escape primaryKey entry = .error e) : e.IsColumnDefect := by
  unfold compileColumn at h
  split at h
  · cases h
    trivial
  · dsimp only at h
    split at h
    · cases h
    · exact ForeignKey.ofReference_eq_error (map_eq_error_iff.mp h)

end Columns

theorem mem_columnKey {entry : String × Column} {k : ForeignKey} (h : k ∈ columnKey entry) :
    ∃ reference ∈ entry.2.foreignKey, ForeignKey.ofReference entry.1 reference = .ok k := by
  obtain ⟨reference, hreference, hk⟩ := Option.bind_eq_some_iff.mp h
  cases hkey : ForeignKey.ofReference entry.1 reference with
  | error e => simp [hkey, Except.toOption] at hk
  | ok key =>
      obtain rfl : key = k := by simpa [hkey, Except.toOption] using hk
      exact ⟨reference, hreference, hkey⟩

/-! ## Tables -/

namespace Table

variable {name : String} {t : Table}

theorem validate_eq_ok_iff :
    t.validate name = .ok () ↔ ∀ key ∈ t.primaryKey, key ∈ Keyed.names t.columns := by
  unfold validate column?
  cases t.primaryKey with
  | none => simp
  | some key =>
      have hheld := Keyed.get?_isSome_iff key t.columns
      by_cases h : key ∈ Keyed.names t.columns
      · simp [h, hheld.mpr h]
      · simp [h, mt hheld.mp h]

theorem validate_eq_error_iff {e : SchemaError} :
    t.validate name = .error e ↔
      ∃ key ∈ t.primaryKey, key ∉ Keyed.names t.columns ∧ e = .unknownPrimaryKey name key := by
  unfold validate column?
  cases t.primaryKey with
  | none => simp
  | some key =>
      have hheld := Keyed.get?_isSome_iff key t.columns
      by_cases h : key ∈ Keyed.names t.columns
      · simp [h, hheld.mpr h]
      · simp only [mt hheld.mp h, Option.mem_def, Option.some.injEq, exists_eq_left', h]
        simp [eq_comm]

/-- The clauses of a table: its columns, its primary key, and its foreign keys. -/
def clauseList (escape : Escaper) (name : String) (t : Table) : List String :=
  t.columns.map (columnClause escape t.primaryKey)
    ++ (t.primaryKey.map (primaryKeyClause escape)).toList
    ++ (t.columns.filterMap columnKey).map (ForeignKey.clause escape name)

theorem mem_clauseList_iff {clause : String} :
    clause ∈ t.clauseList escape name ↔
      (∃ entry ∈ t.columns, columnClause escape t.primaryKey entry = clause) ∨
        (∃ key ∈ t.primaryKey, primaryKeyClause escape key = clause) ∨
        ∃ entry ∈ t.columns, ∃ k ∈ columnKey entry, k.clause escape name = clause := by
  simp only [clauseList, List.mem_append, List.mem_map, Option.mem_toList, Option.map_eq_some_iff,
    List.mem_filterMap, or_assoc, Option.mem_def]
  grind

/-- A table compiles only if each column has a type and each reference is a foreign key. -/
theorem clauses_eq_ok {clauses : List String} (h : t.clauses escape name = .ok clauses) :
    (∀ entry ∈ t.columns, entry.2.type.isSome ∧ ∀ reference ∈ entry.2.foreignKey,
        ∃ key, ForeignKey.ofReference entry.1 reference = .ok key) ∧
      clauses = t.clauseList escape name := by
  obtain ⟨compiled, hcompiled, h⟩ := bind_eq_ok_iff.mp h
  cases h
  constructor
  · intro entry hentry
    obtain ⟨result, hresult⟩ := exists_mapM_eq_ok_iff.mp ⟨compiled, hcompiled⟩ entry hentry
    obtain ⟨htype, hreference, -⟩ := compileColumn_eq_ok hresult
    exact ⟨htype, hreference⟩
  · obtain rfl := eq_map_of_mapM_eq_ok (fun _ _ h => (compileColumn_eq_ok h).2.2) hcompiled
    simp [clauseList, Function.comp_def, List.filterMap_map]

theorem clauses_eq_error {e : SchemaError} (h : t.clauses escape name = .error e) :
    e.IsColumnDefect := by
  rcases bind_eq_error_iff.mp h with h | ⟨compiled, -, h⟩
  · obtain ⟨_, entry, _, _, _, hentry⟩ := mapM_eq_error_iff.mp h
    exact compileColumn_eq_error hentry
  · cases h

end Table

/-! ## Statements -/

namespace Registry

variable {r : Registry} {name : String}

theorem compile_eq_ok_iff {ddl : String} :
    r.compile escape name = .ok ddl ↔ ∃ t clauses, r.get name = .ok t ∧
      t.validate name = .ok () ∧ t.clauses escape name = .ok clauses ∧
      ddl = createStatement escape name clauses := by
  constructor
  · intro h
    obtain ⟨t, hget, h⟩ := bind_eq_ok_iff.mp h
    obtain ⟨⟨⟩, hvalid, h⟩ := bind_eq_ok_iff.mp h
    obtain ⟨clauses, hclauses, h⟩ := bind_eq_ok_iff.mp h
    cases h
    exact ⟨t, clauses, hget, hvalid, hclauses, rfl⟩
  · rintro ⟨t, clauses, hget, hvalid, hclauses, rfl⟩
    rw [compile, hget]
    simp [bind, Except.bind, hvalid, hclauses, pure, Except.pure]

end Registry

end SqlSchema.Schema
