import Mathlib.Data.List.Nodup
import SqlSchema.Proofs.Ddl.Closed
import SqlSchema.Proofs.Literal.RoundTrip
import SqlSchema.Proofs.Schema.WellFormed

/-! # Names of constraints

The constraint of a foreign key is named by its table and its column with an underscore between
them, and an underscore may also stand inside of either. So two columns share a name just when one
table continues the other by what the column of the other begins with. Within one statement no two
foreign keys share a name; the primary key, whose constraint has the name of its column, shares one
when that column is called so. -/

namespace SqlSchema.Schema

open SqlSchema.Literal SqlSchema.Scan SqlSchema.Traversal

/-! ## Reading the name of a constraint -/

/-- The name of a constraint that a clause declares: what stands between `CONSTRAINT` and the words
of the kind of constraint. -/
def constraintName? (kind clause : String) : Option String := do
  let rest ← after? "CONSTRAINT ".toList clause.toList
  let name := rest.takeWhile (· != ' ')
  let _ ← after? kind.toList (rest.drop name.length)
  return String.ofList name

def foreignKeyNames (clauses : List String) : List String :=
  clauses.filterMap (constraintName? " FOREIGN KEY(")

def primaryKeyNames (clauses : List String) : List String :=
  clauses.filterMap (constraintName? " PRIMARY KEY (")

theorem constraintName?_word {name : String} (hname : IsWord name) (kind behind : String) :
    constraintName? kind ("CONSTRAINT " ++ name ++ (" " ++ behind)) =
      (after? kind.toList (" " ++ behind).toList).map fun _ => name := by
  have hword : ∀ c ∈ name.toList, (c != ' ') = true := by
    rintro c hc
    refine bne_iff_ne.mpr ?_
    rintro rfl
    exact absurd (hname _ hc) (by decide)
  have htake : (name.toList ++ ' ' :: behind.toList).takeWhile (· != ' ') = name.toList := by
    rw [List.takeWhile_append_of_pos hword]
    simp
  have hrest : after? "CONSTRAINT ".toList ("CONSTRAINT " ++ name ++ (" " ++ behind)).toList =
      some (name.toList ++ ' ' :: behind.toList) := by
    simpa using after?_append "CONSTRAINT ".toList (name.toList ++ ' ' :: behind.toList)
  have hdrop : (name.toList ++ ' ' :: behind.toList).drop name.toList.length =
      (" " ++ behind).toList := by
    simp
  rw [constraintName?, hrest]
  simp only [Option.bind_eq_bind, Option.bind_some, htake, hdrop, String.ofList_toList]
  cases after? kind.toList (" " ++ behind).toList <;> rfl

theorem constraintName?_columnClause (kind : String) (escape : Escaper)
    (primaryKey : Option String) (entry : String × Column) :
    constraintName? kind (columnClause escape primaryKey entry) = none := by
  have hrest :
      after? "CONSTRAINT ".toList (columnClause escape primaryKey entry).toList = none := by
    simp [columnClause, Column.clause, after?]
  rw [constraintName?, hrest]
  rfl

/-! ## The name of a foreign key -/

def joinedName (place : String × String) : String :=
  "fk_" ++ place.1 ++ "_" ++ place.2

/-- Whether the table of a second column continues that of a first one by what the first column
begins with, an underscore standing between the two. -/
def Continues (first second : String × String) : Prop :=
  ∃ shared, second.1 = first.1 ++ "_" ++ shared ∧ first.2 = shared ++ "_" ++ second.2

theorem Continues.joinedName_eq {first second : String × String} (h : Continues first second) :
    joinedName first = joinedName second := by
  obtain ⟨shared, htable, hcolumn⟩ := h
  simp only [joinedName, htable, hcolumn, String.append_assoc]

theorem eq_or_continues {first second : String × String} {between : List Char}
    (htable : second.1.toList = first.1.toList ++ between)
    (hcolumn : '_' :: first.2.toList = between ++ '_' :: second.2.toList) :
    first = second ∨ Continues first second := by
  cases between with
  | nil =>
      left
      apply Prod.ext
      · exact String.toList_inj.mp (by simpa using htable.symm)
      · exact String.toList_inj.mp (by simpa using hcolumn)
  | cons c shared =>
      obtain ⟨rfl, hcolumn⟩ := List.cons.inj hcolumn
      right
      refine ⟨String.ofList shared, ?_, ?_⟩
      · exact String.toList_inj.mp (by simpa using htable)
      · exact String.toList_inj.mp (by simpa using hcolumn)

/-- Two columns share a name just when the table of one continues that of the other. -/
theorem joinedName_eq_iff (first second : String × String) :
    joinedName first = joinedName second ↔
      first = second ∨ Continues first second ∨ Continues second first := by
  constructor
  · intro h
    have hchars : first.1.toList ++ ('_' :: first.2.toList) =
        second.1.toList ++ ('_' :: second.2.toList) := by
      simpa [joinedName] using congrArg String.toList h
    rcases List.append_eq_append_iff.mp hchars with
      ⟨between, htable, hcolumn⟩ | ⟨between, htable, hcolumn⟩
    · exact (eq_or_continues htable hcolumn).imp_right .inl
    · exact (eq_or_continues htable hcolumn).imp Eq.symm .inr
  · rintro (rfl | h | h)
    · rfl
    · exact h.joinedName_eq
    · exact h.joinedName_eq.symm

theorem not_continues_of_table_eq {first second : String × String} (htable : first.1 = second.1) :
    ¬Continues first second := by
  rintro ⟨shared, hcontinued, -⟩
  have hlength := congrArg (fun s => s.toList.length) (htable.trans hcontinued)
  simp at hlength

/-! ## The clauses of a table -/

theorem isWord_joinedName {place : String × String} (htable : IsWord place.1)
    (hcolumn : IsWord place.2) : IsWord (joinedName place) := by
  have hfixed : IsWord "fk_" ∧ IsWord "_" := by decide
  intro c hc
  simp only [joinedName, String.toList_append, List.mem_append] at hc
  rcases hc with ((hc | hc) | hc) | hc
  · exact hfixed.1 c hc
  · exact htable c hc
  · exact hfixed.2 c hc
  · exact hcolumn c hc

section Clauses

variable {b : Backend}

theorem constraintName?_primaryKeyClause {column : String} (hcolumn : IsWord column) :
    constraintName? " FOREIGN KEY(" (primaryKeyClause b.escape column) = none ∧
      constraintName? " PRIMARY KEY (" (primaryKeyClause b.escape column) = some column := by
  have hclause : primaryKeyClause b.escape column =
      "CONSTRAINT " ++ column ++ (" " ++ ("PRIMARY KEY (`" ++ column ++ "`)")) := by
    unfold primaryKeyClause
    rw [hcolumn.escape_eq]
    apply String.toList_inj.mp
    simp
  rw [hclause, constraintName?_word hcolumn, constraintName?_word hcolumn]
  simp [after?]

theorem constraintName?_foreignKeyClause {name : String} {k : ForeignKey} (hname : IsWord name)
    (hcolumn : IsWord k.localColumn) :
    constraintName? " FOREIGN KEY(" (k.clause b.escape name) =
        some (joinedName (name, k.localColumn)) ∧
      constraintName? " PRIMARY KEY (" (k.clause b.escape name) = none := by
  have hclause : k.clause b.escape name = "CONSTRAINT " ++ joinedName (name, k.localColumn)
      ++ (" " ++ ("FOREIGN KEY(" ++ k.localColumn ++ ") REFERENCES " ++ b.escape k.table ++ "("
        ++ b.escape k.column ++ ")" ++ actionClause "UPDATE" k.onUpdate
        ++ actionClause "DELETE" k.onDelete)) := by
    unfold ForeignKey.clause ForeignKey.constraintName joinedName
    rw [hname.escape_eq, hcolumn.escape_eq]
    apply String.toList_inj.mp
    simp
  have hword : IsWord (joinedName (name, k.localColumn)) := isWord_joinedName hname hcolumn
  rw [hclause, constraintName?_word hword, constraintName?_word hword]
  simp [after?]

end Clauses

def Table.referringColumns (t : Table) : List String :=
  Keyed.names (t.columns.filter (·.2.foreignKey.isSome))

/-- Whether every foreign key of a table is one that compiles. -/
def Table.HasKeys (t : Table) : Prop :=
  ∀ entry ∈ t.columns, ∀ reference ∈ entry.2.foreignKey,
    ∃ key, ForeignKey.ofReference entry.1 reference = .ok key

theorem localColumn_of_mem_columnKey {entry : String × Column} {k : ForeignKey}
    (h : k ∈ columnKey entry) : k.localColumn = entry.1 := by
  obtain ⟨reference, -, hk⟩ := mem_columnKey h
  exact (ForeignKey.ofReference_eq_ok hk).1

/-- The foreign keys belong to the columns that declare one, in order. -/
theorem Table.HasKeys.map_localColumn {t : Table} (h : t.HasKeys) :
    (t.columns.filterMap columnKey).map ForeignKey.localColumn = t.referringColumns := by
  unfold HasKeys at h
  unfold referringColumns
  generalize t.columns = columns at h
  induction columns with
  | nil => rfl
  | cons entry columns ih =>
      obtain ⟨hentry, hcolumns⟩ := List.forall_mem_cons.mp h
      cases hreference : entry.2.foreignKey with
      | none =>
          have hkey : columnKey entry = none := by simp [columnKey, hreference]
          rw [List.filterMap_cons_none hkey, ih hcolumns,
            List.filter_cons_of_neg (by simp [hreference])]
      | some reference =>
          obtain ⟨key, hofReference⟩ := hentry reference hreference
          have hkey : columnKey entry = some key := by
            simp [columnKey, hreference, hofReference, Except.toOption]
          rw [List.filterMap_cons_some hkey, List.map_cons, ih hcolumns,
            localColumn_of_mem_columnKey hkey, List.filter_cons_of_pos (by simp [hreference])]
          rfl

/-- A column declares no constraint with a name. -/
theorem filterMap_clauseList (kind : String) (escape : Escaper) (name : String) (t : Table) :
    (t.clauseList escape name).filterMap (constraintName? kind) =
      t.primaryKey.toList.filterMap (fun key => constraintName? kind (primaryKeyClause escape key))
        ++ (t.columns.filterMap columnKey).filterMap
          (fun k => constraintName? kind (k.clause escape name)) := by
  have hcolumns : (t.columns.map (columnClause escape t.primaryKey)).filterMap
      (constraintName? kind) = [] := by
    rw [List.filterMap_map, List.filterMap_eq_nil_iff]
    intro entry _
    exact constraintName?_columnClause kind escape t.primaryKey entry
  rw [Table.clauseList, List.filterMap_append, List.filterMap_append, hcolumns, List.nil_append,
    Option.toList_map, List.filterMap_map, List.filterMap_map]
  rfl

section Names

variable {b : Backend} {name : String} {t : Table}
variable (hname : IsWord name) (hcolumns : ∀ column ∈ Keyed.names t.columns, IsWord column)
variable (hprimary : ∀ key ∈ t.primaryKey, key ∈ Keyed.names t.columns)

include hname hcolumns hprimary

theorem constraintNames_clauseList :
    foreignKeyNames (t.clauseList b.escape name) =
        ((t.columns.filterMap columnKey).map ForeignKey.localColumn).map
          (fun column => joinedName (name, column)) ∧
      primaryKeyNames (t.clauseList b.escape name) = t.primaryKey.toList := by
  have hkey : ∀ key ∈ t.primaryKey.toList, IsWord key := by
    intro key hkey
    exact hcolumns key (hprimary key (Option.mem_toList.mp hkey))
  have hlocal : ∀ k ∈ t.columns.filterMap columnKey, IsWord k.localColumn := by
    intro k hk
    obtain ⟨entry, hentry, hk⟩ := List.mem_filterMap.mp hk
    rw [localColumn_of_mem_columnKey hk]
    exact hcolumns _ (List.mem_map_of_mem hentry)
  rw [foreignKeyNames, primaryKeyNames, filterMap_clauseList, filterMap_clauseList]
  constructor
  · rw [List.filterMap_eq_nil_iff.mpr
        fun key hmem => (constraintName?_primaryKeyClause (hkey key hmem)).1,
      List.filterMap_congr
        fun k hk => (constraintName?_foreignKeyClause hname (hlocal k hk)).1]
    simp [Function.comp_def]
  · rw [List.filterMap_congr
        fun key hmem => (constraintName?_primaryKeyClause (hkey key hmem)).2,
      List.filterMap_eq_nil_iff.mpr
        fun k hk => (constraintName?_foreignKeyClause hname (hlocal k hk)).2]
    simp

end Names

/-! ## All statements of a schema -/

namespace Registry

variable {r : Registry}

def clauseLists (escape : Escaper) (r : Registry) : List (List String) :=
  r.tables.map fun entry => entry.2.clauseList escape entry.1

/-- The columns that declare a foreign key, each with its table. -/
def referringColumns (r : Registry) : List (String × String) :=
  r.tables.flatMap fun entry => entry.2.referringColumns.map fun column => (entry.1, column)

theorem WellFormed.compile_of_mem (h : r.WellFormed) {escape : Escaper} {entry : String × Table}
    (hentry : entry ∈ r.tables) {ddl : String} (hddl : r.compile escape entry.1 = .ok ddl) :
    entry.2.HasKeys ∧
      ddl = createStatement escape entry.1 (entry.2.clauseList escape entry.1) := by
  obtain ⟨t, clauses, hget, -, hclauses, rfl⟩ := compile_eq_ok_iff.mp hddl
  obtain rfl : entry.2 = t := Except.ok.inj ((h.get_of_mem hentry).symm.trans hget)
  obtain ⟨hcolumns, rfl⟩ := Table.clauses_eq_ok hclauses
  exact ⟨fun column hcolumn => (hcolumns column hcolumn).2, rfl⟩

/-- All statements are those of the tables in order, and every foreign key in them is one that
compiles. -/
theorem WellFormed.compileAll_eq_ok (h : r.WellFormed) {escape : Escaper}
    {statements : List String} (hall : r.compileAll escape = .ok statements) :
    (∀ entry ∈ r.tables, entry.2.HasKeys) ∧
      statements = List.zipWith (createStatement escape) r.tableNames (r.clauseLists escape) := by
  have heach : ∀ entry ∈ r.tables, ∃ ddl, r.compile escape entry.1 = .ok ddl := by
    intro entry hentry
    exact exists_mapM_eq_ok_iff.mp ⟨statements, hall⟩ entry.1 (List.mem_map_of_mem hentry)
  constructor
  · intro entry hentry
    obtain ⟨ddl, hddl⟩ := heach entry hentry
    exact (h.compile_of_mem hentry hddl).1
  · have hstatements : r.compileAll escape = .ok (r.tables.map fun entry =>
        createStatement escape entry.1 (entry.2.clauseList escape entry.1)) := by
      refine mapM_eq_ok_iff.mpr (List.forall₂_map_left_iff.mpr (List.forall₂_map_right_iff.mpr
        (List.forall₂_same.mpr fun entry hentry => ?_)))
      obtain ⟨ddl, hddl⟩ := heach entry hentry
      rw [hddl, (h.compile_of_mem hentry hddl).2]
    rw [tableNames, Keyed.names, clauseLists, List.zipWith_map, List.zipWith_self]
    exact Except.ok.inj (hall.symm.trans hstatements)

theorem nodup_referringColumns_table {t : Table} (h : t.WellFormed) : t.referringColumns.Nodup :=
  h.names.sublist (List.filter_sublist.map Prod.fst)

theorem WellFormed.nodup_referringColumns (h : r.WellFormed) : r.referringColumns.Nodup := by
  rw [referringColumns, List.nodup_flatMap]
  constructor
  · intro entry hentry
    have hcolumns := nodup_referringColumns_table (h.tables entry hentry)
    exact hcolumns.map fun _ _ heq => (Prod.mk.inj heq).2
  · refine (List.pairwise_map.mp h.names).imp fun {first second} hne => ?_
    intro place hfirst hsecond
    obtain ⟨_, -, rfl⟩ := List.mem_map.mp hfirst
    obtain ⟨_, -, heq⟩ := List.mem_map.mp hsecond
    exact hne (Prod.mk.inj heq).1.symm

section Words

variable {b : Backend} (hr : r.WellFormed) (hkeys : ∀ entry ∈ r.tables, entry.2.HasKeys)
variable (hwords : ∀ entry ∈ r.tables,
  IsWord entry.1 ∧ ∀ column ∈ Keyed.names entry.2.columns, IsWord column)

include hr hkeys hwords

theorem constraintNames_of_mem {entry : String × Table} (hentry : entry ∈ r.tables) :
    foreignKeyNames (entry.2.clauseList b.escape entry.1) =
        entry.2.referringColumns.map (fun column => joinedName (entry.1, column)) ∧
      primaryKeyNames (entry.2.clauseList b.escape entry.1) = entry.2.primaryKey.toList := by
  obtain ⟨hname, hcolumns⟩ := hwords entry hentry
  rw [← (hkeys entry hentry).map_localColumn]
  exact constraintNames_clauseList hname hcolumns (hr.tables entry hentry).primaryKey

theorem foreignKeyNames_clauseLists :
    (r.clauseLists b.escape).flatMap foreignKeyNames = r.referringColumns.map joinedName := by
  rw [clauseLists, List.flatMap_map, referringColumns, List.map_flatMap]
  refine List.flatMap_congr fun entry hentry => ?_
  rw [(constraintNames_of_mem hr hkeys hwords hentry).1, List.map_map]
  rfl

end Words

/-- The constraint of each foreign key is named by its table and its column. Two of them share a
name just when the table of one continues that of the other by what its column begins with; so no
two share one within a statement. A primary key shares its name with a foreign key of its statement
just when it is a column that is called as that constraint is. -/
theorem compileAll_constraintNames {b : Backend} {statements : List String} (hr : r.WellFormed)
    (hwords : ∀ entry ∈ r.tables,
      IsWord entry.1 ∧ ∀ column ∈ Keyed.names entry.2.columns, IsWord column)
    (h : r.compileAll b.escape = .ok statements) :
    statements = List.zipWith (createStatement b.escape) r.tableNames (r.clauseLists b.escape) ∧
      (r.clauseLists b.escape).flatMap foreignKeyNames = r.referringColumns.map joinedName ∧
      r.referringColumns.Nodup ∧
      (∀ first second, joinedName first = joinedName second ↔
        first = second ∨ Continues first second ∨ Continues second first) ∧
      (((r.clauseLists b.escape).flatMap foreignKeyNames).Nodup ↔
        ∀ first ∈ r.referringColumns, ∀ second ∈ r.referringColumns, ¬Continues first second) ∧
      ∀ entry ∈ r.tables,
        (foreignKeyNames (entry.2.clauseList b.escape entry.1)).Nodup ∧
          primaryKeyNames (entry.2.clauseList b.escape entry.1) = entry.2.primaryKey.toList ∧
          ∀ key, key ∈ foreignKeyNames (entry.2.clauseList b.escape entry.1) ↔
            ∃ column ∈ entry.2.referringColumns, key = joinedName (entry.1, column) := by
  obtain ⟨hkeys, hstatements⟩ := hr.compileAll_eq_ok h
  have hall := foreignKeyNames_clauseLists (b := b) hr hkeys hwords
  have hnodup := hr.nodup_referringColumns
  refine ⟨hstatements, hall, hnodup, joinedName_eq_iff, ?_, fun entry hentry => ?_⟩
  · rw [hall, List.nodup_map_iff_inj_on hnodup]
    constructor
    · intro hinjective first hfirst second hsecond hcontinues
      have heq : first = second :=
        hinjective first hfirst second hsecond hcontinues.joinedName_eq
      exact not_continues_of_table_eq (congrArg Prod.fst heq) hcontinues
    · intro hnone first hfirst second hsecond heq
      rcases (joinedName_eq_iff first second).mp heq with heq | hcontinues | hcontinues
      · exact heq
      · exact absurd hcontinues (hnone first hfirst second hsecond)
      · exact absurd hcontinues (hnone second hsecond first hfirst)
  · obtain ⟨hforeign, hprimary⟩ := constraintNames_of_mem (b := b) hr hkeys hwords hentry
    refine ⟨?_, hprimary, fun key => ?_⟩
    · rw [hforeign]
      refine (nodup_referringColumns_table (hr.tables entry hentry)).map fun first second heq => ?_
      rcases (joinedName_eq_iff _ _).mp heq with heq | hcontinues | hcontinues
      · exact (Prod.mk.inj heq).2
      · exact absurd hcontinues (not_continues_of_table_eq rfl)
      · exact absurd hcontinues (not_continues_of_table_eq rfl)
    · simp [hforeign, eq_comm]

/-- Two tables with an underscore in every name, whose foreign keys have names of their own. -/
theorem compileAll_constraintNames_orders :
    let key : Column := { type := some "INT", foreignKey := some (.to "users" "id") }
    let items : Table := ⟨[("order_id", key), ("user_id", key)], some "order_id"⟩
    let r : Registry := ⟨[("order_items", items), ("order", ⟨[("user_id", key)], none⟩)]⟩
    ∃ statements, r.compileAll Backend.mySql.escape = .ok statements ∧
      (r.clauseLists Backend.mySql.escape).flatMap foreignKeyNames =
        ["fk_order_items_order_id", "fk_order_items_user_id", "fk_order_user_id"] ∧
      ((r.clauseLists Backend.mySql.escape).flatMap foreignKeyNames).Nodup := by
  intro key items r
  have hr : r.WellFormed := by
    refine ⟨by decide, ?_⟩
    simp only [r, items, List.forall_mem_cons, List.not_mem_nil, false_imp_iff, implies_true,
      and_true]
    exact ⟨⟨by decide, by simp⟩, ⟨by decide, by simp⟩⟩
  have hall : ∃ statements, r.compileAll Backend.mySql.escape = .ok statements := ⟨_, rfl⟩
  obtain ⟨statements, hstatements⟩ := hall
  obtain ⟨-, hnames, -⟩ := compileAll_constraintNames hr (by decide) hstatements
  refine ⟨statements, hstatements, hnames.trans (by decide), ?_⟩
  rw [hnames]
  decide

/-- Foreign keys of different tables that share a name, and one that shares a name with the primary
key of its table. -/
theorem compileAll_sharedNames :
    let key : Column := { type := some "INT", foreignKey := some (.to "users" "id") }
    let across : Registry := ⟨[("a_b", ⟨[("c", key)], none⟩), ("a", ⟨[("b_c", key)], none⟩)]⟩
    let within : Table := ⟨[("fk_t_c", .ofType "INT"), ("c", key)], some "fk_t_c"⟩
    across.WellFormed ∧ Registry.WellFormed ⟨[("t", within)]⟩ ∧ ∀ b : Backend,
      (∃ first second,
        across.compileAll b.escape =
          .ok [createStatement b.escape "a_b" first, createStatement b.escape "a" second] ∧
        foreignKeyNames first = ["fk_a_b_c"] ∧ foreignKeyNames second = ["fk_a_b_c"]) ∧
      ∃ clauses,
        Registry.compileAll b.escape ⟨[("t", within)]⟩ =
          .ok [createStatement b.escape "t" clauses] ∧
        foreignKeyNames clauses = ["fk_t_c"] ∧ primaryKeyNames clauses = ["fk_t_c"] := by
  intro key across within
  have hacross : across.WellFormed := by
    refine ⟨by decide, ?_⟩
    rintro entry hentry
    simp only [across, List.mem_cons, List.not_mem_nil, or_false] at hentry
    rcases hentry with rfl | rfl
    · exact ⟨by decide, by simp⟩
    · exact ⟨by decide, by simp⟩
  have hwithin : Registry.WellFormed ⟨[("t", within)]⟩ := by
    refine ⟨by decide, ?_⟩
    rintro entry hentry
    obtain rfl := List.mem_singleton.mp hentry
    exact ⟨by decide, by simp [within]⟩
  refine ⟨hacross, hwithin, fun b => ⟨?_, ?_⟩⟩
  · have hall : across.compileAll b.escape =
        .ok [createStatement b.escape "a_b" (Table.clauseList b.escape "a_b" ⟨[("c", key)], none⟩),
          createStatement b.escape "a" (Table.clauseList b.escape "a" ⟨[("b_c", key)], none⟩)] := by
      cases b <;> rfl
    have hkeys := (hacross.compileAll_eq_ok hall).1
    have hnames {entry : String × Table} (hentry : entry ∈ across.tables) :=
      (constraintNames_of_mem (b := b) hacross hkeys (by decide) hentry).1
    exact ⟨_, _, hall, (hnames List.mem_cons_self).trans (by decide),
      (hnames (List.mem_cons_of_mem _ List.mem_cons_self)).trans (by decide)⟩
  · have hall : Registry.compileAll b.escape ⟨[("t", within)]⟩ =
        .ok [createStatement b.escape "t" (Table.clauseList b.escape "t" within)] := by
      cases b <;> rfl
    have hkeys := (hwithin.compileAll_eq_ok hall).1
    obtain ⟨hforeign, hprimary⟩ :=
      constraintNames_of_mem (b := b) hwithin hkeys (by decide) List.mem_cons_self
    exact ⟨_, hall, hforeign.trans (by decide), hprimary⟩

end Registry

end SqlSchema.Schema
