import SqlSchema.Proofs.Ddl.Closed
import SqlSchema.Proofs.Schema.Clauses

/-! # The clauses of a statement read back

The statement that creates a table has one body, which ends where the statement ends, and the body
falls into the clauses that the table was described by. A default may hold any text: it cannot end
its clause, nor the body. -/

namespace SqlSchema.Scan

open SqlSchema.Schema SqlSchema.Text

/-! ## Descriptions that are asked for -/

/-- A default that is written as a word, as a whole number or between quotes. -/
def IsLiteral : DefaultValue → Prop
  | .bool _ | .integer _ | .text _ => True
  | .float _ | .expression _ => False

/-- A column whose names are words and whose type is a type. Nothing is asked of the text of a
default. -/
structure PlainColumn (entry : String × Column) : Prop where
  name : IsWord entry.1
  type : ∀ type ∈ entry.2.type, IsType type
  default : ∀ default ∈ entry.2.default, IsLiteral default
  table : ∀ reference ∈ entry.2.foreignKey, ∀ table ∈ reference.table, IsWord (trim table)
  column : ∀ reference ∈ entry.2.foreignKey, ∀ column ∈ reference.column, IsWord (trim column)

/-! ## Closed clauses -/

variable {b : Backend}

theorem closed_toString (n : Int) : Closed b (toString n) := by
  apply closed_of_plain
  have hdigit : ∀ m : Nat, ∀ c ∈ m.repr.toList, c ∉ delimiters := by
    intro m c hc
    rw [Nat.toList_repr] at hc
    have hc := Nat.isDigit_of_mem_toDigits (by decide) (by decide) hc
    exact notMem_delimiters_of_isWordChar (by simp [isWordChar, Char.isAlphanum, hc])
  intro c hc
  rw [Int.toString_eq_repr, Int.repr_eq_if] at hc
  split at hc
  · exact hdigit _ c hc
  · rw [String.toList_append, List.mem_append] at hc
    rcases hc with hc | hc
    · obtain rfl : c = '-' := by simpa using hc
      decide
    · exact hdigit _ c hc

theorem closed_default {default : DefaultValue} (h : IsLiteral default) :
    Closed b (default.sql b.escape) := by
  cases default with
  | bool value =>
      cases value with
      | false =>
          change Closed b "false"
          exact closed_of_plain (by decide)
      | true =>
          change Closed b "true"
          exact closed_of_plain (by decide)
  | integer n => exact closed_toString n.toInt
  | text s => exact closed_quotedText s
  | float x => cases h
  | expression sql => cases h

theorem closed_nullClause (c : Column) (isPrimaryKey : Bool) :
    Closed b (c.nullClause isPrimaryKey) := by
  unfold Column.nullClause
  split
  · exact closed_of_plain (by decide)
  · exact Closed.textIf (closed_of_plain (by decide)) _

theorem closed_defaultClause {c : Column} (h : ∀ default ∈ c.default, IsLiteral default) :
    Closed b (c.defaultClause b.escape) := by
  unfold Column.defaultClause
  split
  · rename_i default hdefault
    exact (closed_of_plain (by decide)).append (closed_default (h default hdefault))
  · exact closed_empty

theorem PlainColumn.closed {entry : String × Column} (h : PlainColumn entry)
    (htype : entry.2.type.isSome) (primaryKey : Option String) :
    Closed b (columnClause b.escape primaryKey entry) := by
  obtain ⟨type, htype⟩ := Option.isSome_iff_exists.mp htype
  have hname : Closed b ("`" ++ b.escape entry.1 ++ "` ") := by
    have hparts : "`" ++ entry.1 ++ "` " = "`" ++ entry.1 ++ "`" ++ " " :=
      String.toList_inj.mp (by simp)
    rw [h.name.escape_eq, hparts]
    exact h.name.closed_quotedName.append (closed_of_plain (by decide))
  unfold columnClause Column.clause
  rw [htype]
  exact ((((hname.append (h.type type htype).closed).append
    (Closed.textIf (closed_of_plain (by decide)) _)).append (closed_nullClause _ _)).append
      (closed_defaultClause h.default)).append (Closed.textIf (closed_of_plain (by decide)) _)

theorem closed_primaryKeyClause {column : String} (h : IsWord column) :
    Closed b (primaryKeyClause b.escape column) := by
  have hparts : primaryKeyClause b.escape column =
      "CONSTRAINT " ++ column ++ " PRIMARY KEY " ++ ("(" ++ ("`" ++ column ++ "`") ++ ")") := by
    unfold primaryKeyClause
    rw [h.escape_eq]
    exact String.toList_inj.mp (by simp)
  rw [hparts]
  exact (((closed_of_plain (by decide)).append h.closed).append
    (closed_of_plain (by decide))).append h.closed_quotedName.parenthesized

theorem closed_actionClause {event : String} (h : Closed b event)
    (action : Option ReferentialAction) : Closed b (actionClause event action) := by
  unfold actionClause
  split
  · rename_i action
    have haction : Closed b action.sql := by
      cases action <;> exact closed_of_plain (by decide)
    exact (((closed_of_plain (by decide)).append h).append (closed_of_plain (by decide))).append
      haction
  · exact closed_empty

theorem closed_foreignKeyClause {table : String} {k : ForeignKey} (htable : IsWord table)
    (hlocal : IsWord k.localColumn) (hreferred : IsWord k.table) (hcolumn : IsWord k.column) :
    Closed b (k.clause b.escape table) := by
  have hparts : k.clause b.escape table =
      "CONSTRAINT fk_" ++ table ++ "_" ++ k.localColumn ++ " FOREIGN KEY"
        ++ ("(" ++ k.localColumn ++ ")") ++ " REFERENCES " ++ k.table ++ ("(" ++ k.column ++ ")")
        ++ actionClause "UPDATE" k.onUpdate ++ actionClause "DELETE" k.onDelete := by
    unfold ForeignKey.clause ForeignKey.constraintName
    rw [htable.escape_eq, hlocal.escape_eq, hreferred.escape_eq, hcolumn.escape_eq]
    exact String.toList_inj.mp (by simp)
  have hconstraint : Closed b ("CONSTRAINT fk_" ++ table ++ "_" ++ k.localColumn) :=
    (((closed_of_plain (by decide)).append htable.closed).append
      (closed_of_plain (by decide))).append hlocal.closed
  have hkey : Closed b (" FOREIGN KEY" ++ ("(" ++ k.localColumn ++ ")")) :=
    (closed_of_plain (by decide)).append hlocal.closed.parenthesized
  have hreference : Closed b (" REFERENCES " ++ k.table ++ ("(" ++ k.column ++ ")")) :=
    ((closed_of_plain (by decide)).append hreferred.closed).append hcolumn.closed.parenthesized
  have hupdate : Closed b (actionClause "UPDATE" k.onUpdate) :=
    closed_actionClause (closed_of_plain (by decide)) _
  have hdelete : Closed b (actionClause "DELETE" k.onDelete) :=
    closed_actionClause (closed_of_plain (by decide)) _
  rw [hparts]
  simpa only [String.append_assoc] using
    (((hconstraint.append hkey).append hreference).append hupdate).append hdelete

/-! ## Bodies -/

section Table

variable {name : String} {t : Table} (hname : IsWord name)
  (hcolumns : ∀ entry ∈ t.columns, PlainColumn entry)

include hname hcolumns

theorem closed_clauseList (htypes : ∀ entry ∈ t.columns, entry.2.type.isSome)
    (hkey : ∀ key ∈ t.primaryKey, key ∈ Keyed.names t.columns) :
    ∀ clause ∈ t.clauseList b.escape name, Closed b clause := by
  intro clause hclause
  rcases Table.mem_clauseList_iff.mp hclause with
    ⟨entry, hentry, rfl⟩ | ⟨key, hprimary, rfl⟩ | ⟨entry, hentry, k, hk, rfl⟩
  · exact (hcolumns entry hentry).closed (htypes entry hentry) _
  · obtain ⟨entry, hentry, rfl⟩ := List.mem_map.mp (hkey key hprimary)
    exact closed_primaryKeyClause (hcolumns entry hentry).name
  · have hplain := hcolumns entry hentry
    obtain ⟨reference, hreference, hk⟩ := mem_columnKey hk
    obtain ⟨hlocal, ⟨table, htable, hreferred⟩, column, hcolumn, hto⟩ :=
      ForeignKey.ofReference_eq_ok hk
    exact closed_foreignKeyClause hname (hlocal ▸ hplain.name)
      (hreferred ▸ hplain.table reference hreference table htable)
      (hto ▸ hplain.column reference hreference column hcolumn)

end Table

theorem clause_ne_empty {name : String} {t : Table} {escape : Escaper} :
    ∀ clause ∈ t.clauseList escape name, clause ≠ "" := by
  intro clause hclause hempty
  rcases Table.mem_clauseList_iff.mp hclause with
    ⟨entry, -, rfl⟩ | ⟨key, -, rfl⟩ | ⟨entry, -, k, -, rfl⟩
  · unfold columnClause Column.clause at hempty
    simp [String.append_eq_empty_iff] at hempty
  · unfold primaryKeyClause at hempty
    simp [String.append_eq_empty_iff] at hempty
  · unfold ForeignKey.clause at hempty
    simp [String.append_eq_empty_iff] at hempty

/-! ## Statements -/

theorem toList_createStatement (escape : Escaper) (name : String) (clauses : List String) :
    (createStatement escape name clauses).toList =
      "CREATE TABLE IF NOT EXISTS ".toList ++ (("`" ++ escape name ++ "`").toList ++
        ([' '] ++ '(' :: ((joined ", " clauses).toList ++ [')', ';']))) := by
  unfold createStatement
  simp

/-- The first parenthesis of a statement stands behind the name of its table. -/
theorem upTo_createStatement {name : String} (hname : IsWord name) (clauses : List String) :
    upTo b '(' .start (createStatement b.escape name clauses).toList =
      some (("CREATE TABLE IF NOT EXISTS `" ++ name ++ "` ").toList,
        (joined ", " clauses).toList ++ [')', ';']) := by
  have hmark : '(' ∈ ['('] := List.mem_singleton_self _
  have hwords : pass b ['('] .start "CREATE TABLE IF NOT EXISTS ".toList = some .start :=
    pass_of_plain (by decide) (by decide) 0
  have hquoted : pass b ['('] .start ("`" ++ name ++ "`").toList = some .start :=
    pass_quotedName (by decide) hname 0
  have hspace : pass b ['('] .start [' '] = some .start :=
    pass_of_plain (by decide) (by decide) 0
  have hopen : ∀ rest, upTo b '(' .start ('(' :: rest) = some ([], rest) := fun _ => rfl
  rw [toList_createStatement, hname.escape_eq, upTo_append hmark hwords, upTo_append hmark hquoted,
    upTo_append hmark hspace, hopen]
  simp

/-- Behind the name of its table, the statement of a table has one body, which is closed right
before the final semicolon and falls into the clauses of the table: one for each column, in order,
then the primary key, then each foreign key that a column declares. No text of a default changes
that. -/
theorem compile_readClauses {r : Registry} {name : String} {t : Table} {ddl : String}
    (hget : r.get name = .ok t) (hname : IsWord name)
    (hcolumns : ∀ entry ∈ t.columns, PlainColumn entry)
    (h : r.compile b.escape name = .ok ddl) :
    (∀ entry ∈ t.columns, entry.2.type.isSome ∧ ∀ reference ∈ entry.2.foreignKey,
        ∃ key, ForeignKey.ofReference entry.1 reference = .ok key) ∧
      ∃ body,
        upTo b '(' .start ddl.toList =
          some (("CREATE TABLE IF NOT EXISTS `" ++ name ++ "` ").toList, body ++ [')', ';']) ∧
        upTo b ')' .start (body ++ [')', ';']) = some (body, [';']) ∧
        readClauses b body =
          t.columns.map (fun entry => entry.2.clause b.escape entry.1 (entry.2.type.getD "")
              (t.primaryKey == some entry.1))
            ++ (t.primaryKey.map (primaryKeyClause b.escape)).toList
            ++ (t.columns.filterMap columnKey).map (ForeignKey.clause b.escape name) := by
  obtain ⟨found, clauses, hfound, hvalid, hclauses, rfl⟩ := Registry.compile_eq_ok_iff.mp h
  obtain rfl : t = found := Except.ok.inj (hget.symm.trans hfound)
  obtain ⟨hdescribed, rfl⟩ := Table.clauses_eq_ok hclauses
  have hclosed : ∀ clause ∈ t.clauseList b.escape name, Closed b clause :=
    closed_clauseList hname hcolumns (fun entry hentry => (hdescribed entry hentry).1)
      (Table.validate_eq_ok_iff.mp hvalid)
  have hend : upTo b ')' .start [')', ';'] = some ([], [';']) := rfl
  refine ⟨hdescribed, _, upTo_createStatement hname _, ?_, ?_⟩
  · rw [upTo_append (List.mem_singleton_self _) (pass_joined hclosed), hend]
    simp
  · exact readClauses_joined hclosed clause_ne_empty

/-- A default that imitates the end of a clause and of the statement. -/
theorem compile_readClauses_imitation :
    let price : Column :=
      { type := some "DECIMAL(10,2)", default := some (.text "0'), `b` (\\', INT);") }
    let t : Table := ⟨[("price", price)], some "price"⟩
    let r : Registry := ⟨[("goods", t)]⟩
    ∃ ddl body, r.compile Backend.mySql.escape "goods" = .ok ddl ∧
      upTo .mySql '(' .start ddl.toList =
        some ("CREATE TABLE IF NOT EXISTS `goods` ".toList, body ++ [')', ';']) ∧
      upTo .mySql ')' .start (body ++ [')', ';']) = some (body, [';']) ∧
      readClauses .mySql body =
        ["`price` DECIMAL(10,2) DEFAULT '0\\'), `b` (\\\\\\', INT);'",
          "CONSTRAINT price PRIMARY KEY (`price`)"] := by
  intro price t r
  have hprice : PlainColumn ("price", price) := by
    refine ⟨by decide, ?_, ?_, by simp [price], by simp [price]⟩
    · rintro type ⟨⟩
      exact ⟨by simp, by decide⟩
    · rintro default ⟨⟩
      trivial
  have hcompile : r.compile Backend.mySql.escape "goods" = .ok (createStatement
      Backend.mySql.escape "goods" [price.clause Backend.mySql.escape "price" "DECIMAL(10,2)" true,
        primaryKeyClause Backend.mySql.escape "price"]) :=
    Registry.compile_eq_ok_iff.mpr ⟨t, _, rfl, rfl, rfl, rfl⟩
  obtain ⟨-, body, hhead, hbody, hclauses⟩ := compile_readClauses rfl (by decide)
    (List.forall_mem_singleton.mpr hprice) hcompile
  have hcolumn : price.clause Backend.mySql.escape "price" "DECIMAL(10,2)" true =
      "`price` DECIMAL(10,2) DEFAULT '0\\'), `b` (\\\\\\', INT);'" := by
    decide +kernel
  have hkey : primaryKeyClause Backend.mySql.escape "price" =
      "CONSTRAINT price PRIMARY KEY (`price`)" := by
    decide +kernel
  refine ⟨_, body, hcompile, hhead, hbody, ?_⟩
  rw [hclauses, ← hcolumn, ← hkey]
  rfl

end SqlSchema.Scan
