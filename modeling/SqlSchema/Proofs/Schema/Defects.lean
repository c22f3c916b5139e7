import SqlSchema.Proofs.Schema.ForeignKey
import SqlSchema.Proofs.Schema.WellFormed

/-! # Defects of columns

A table compiles just when none of its columns has a defect. Otherwise the first column with a
defect decides the error, whatever stands behind it. -/

namespace SqlSchema.Schema

open SqlSchema.Text SqlSchema.Traversal

/-! ## One column -/

/-- A column under its name has a type, and its reference, if it has one, is a foreign key. -/
def IsSound (entry : String × Column) : Prop :=
  entry.2.type.isSome ∧ ∀ reference ∈ entry.2.foreignKey,
    ∃ key, ForeignKey.ofReference entry.1 reference = .ok key

/-- The defect of a column under its name. A missing type is told before a bad reference. -/
inductive Defect (entry : String × Column) : SchemaError → Prop where
  | missingType (htype : entry.2.type = none) : Defect entry (.missingType entry.1)
  | reference {reference : Reference} {e : SchemaError} (htype : entry.2.type.isSome)
      (hreference : reference ∈ entry.2.foreignKey)
      (he : ForeignKey.ofReference entry.1 reference = .error e) : Defect entry e

section Columns

variable {escape : Escaper} {primaryKey : Option String} {entry : String × Column}
variable {e : SchemaError}

theorem compileColumn_eq_error_iff :
    compileColumn escape primaryKey entry = .error e ↔ Defect entry e := by
  unfold compileColumn
  constructor
  · intro h
    split at h
    next htype =>
      cases h
      exact .missingType htype
    next type htype =>
      dsimp only at h
      split at h
      next => cases h
      next reference hreference =>
        exact .reference (by rw [htype]; rfl) hreference (map_eq_error_iff.mp h)
  · rintro (htype | ⟨htype, hreference, he⟩)
    · rw [htype]
    · obtain ⟨type, htype⟩ := Option.isSome_iff_exists.mp htype
      rw [htype, Option.mem_def.mp hreference]
      exact map_eq_error_iff.mpr he

theorem isSound_iff_forall_not_defect : IsSound entry ↔ ∀ e, ¬Defect entry e := by
  constructor
  · rintro ⟨htype, hreference⟩ e (hnone | ⟨-, hmem, he⟩)
    · rw [hnone] at htype
      cases htype
    · obtain ⟨key, hkey⟩ := hreference _ hmem
      rw [hkey] at he
      cases he
  · intro h
    have htype : entry.2.type.isSome := by
      cases htype : entry.2.type with
      | none => exact absurd (.missingType htype) (h _)
      | some type => rfl
    exact ⟨htype, fun reference hmem =>
      exists_eq_ok_iff.mpr fun e he => h e (.reference htype hmem he)⟩

theorem exists_compileColumn_eq_ok_iff (escape : Escaper) (primaryKey : Option String) :
    (∃ compiled, compileColumn escape primaryKey entry = .ok compiled) ↔ IsSound entry := by
  rw [exists_eq_ok_iff, isSound_iff_forall_not_defect]
  exact forall_congr' fun e => not_congr compileColumn_eq_error_iff

end Columns

/-! ## What an error says -/

/-- The part of a reference under the name that errors give it. -/
def Reference.part (r : Reference) : String → Option String
  | "table" => r.table
  | "column" => r.column
  | "on_delete" => r.onDelete
  | "on_update" => r.onUpdate
  | _ => none

/-- An error that names a column and is true of it. -/
inductive SchemaError.IsTrueOf (name : String) (c : Column) : SchemaError → Prop where
  | missingType (h : c.type = none) : IsTrueOf name c (.missingType name)
  | missingField {r : Reference} {field : String} (hr : r ∈ c.foreignKey)
      (hfield : field ∈ ["table", "column"]) (h : ¬ForeignKey.IsNamed (r.part field)) :
      IsTrueOf name c (.missingField name field)
  | invalidAction {r : Reference} {field raw : String} (hr : r ∈ c.foreignKey)
      (hfield : field ∈ ["on_delete", "on_update"]) (hraw : raw ∈ r.part field)
      (h : ∀ a, ¬ReferentialAction.Spells (trim raw) a) :
      IsTrueOf name c (.invalidAction name field raw ForeignKey.validActions)

theorem Defect.isTrueOf {entry : String × Column} {e : SchemaError} (h : Defect entry e) :
    e.IsTrueOf entry.1 entry.2 := by
  rcases h with htype | ⟨-, hreference, he⟩
  · exact .missingType htype
  · cases ForeignKey.ofReference_eq_error_iff.mp he with
    | table h => exact .missingField hreference (by simp) h
    | column _ h => exact .missingField hreference (by simp) h
    | onDelete _ _ hraw h => exact .invalidAction hreference (by simp) hraw h
    | onUpdate _ _ _ hraw h => exact .invalidAction hreference (by simp) hraw h

/-! ## The first defect -/

def FirstDefect (columns : List (String × Column)) (e : SchemaError) : Prop :=
  ∃ before entry after, columns = before ++ entry :: after ∧ (∀ other ∈ before, IsSound other) ∧
    Defect entry e

/-- Nothing behind a column with a defect matters. -/
theorem firstDefect_append_iff {columns after : List (String × Column)} {e : SchemaError}
    (h : ∃ entry ∈ columns, ¬IsSound entry) :
    FirstDefect (columns ++ after) e ↔ FirstDefect columns e := by
  constructor
  · rintro ⟨before, first, rest, hcolumns, hbefore, hfirst⟩
    obtain ⟨entry, hentry, hdefect⟩ := h
    rcases List.append_eq_append_iff.mp hcolumns with ⟨more, rfl, -⟩ | ⟨more, rfl, hmore⟩
    · exact absurd (hbefore entry (List.mem_append_left more hentry)) hdefect
    · cases more with
      | nil =>
          rw [List.append_nil] at hentry
          exact absurd (hbefore entry hentry) hdefect
      | cons x more =>
          obtain ⟨rfl, -⟩ := List.cons.inj hmore
          exact ⟨before, first, more, rfl, hbefore, hfirst⟩
  · rintro ⟨before, first, rest, rfl, hbefore, hfirst⟩
    exact ⟨before, first, rest ++ after, by simp, hbefore, hfirst⟩

namespace Table

variable {t : Table} {e : SchemaError}

theorem clauses_eq_error_iff (escape : Escaper) (name : String) :
    t.clauses escape name = .error e ↔ FirstDefect t.columns e := by
  rw [clauses, bind_eq_error_iff, mapM_eq_error_iff]
  simp only [exists_compileColumn_eq_ok_iff, compileColumn_eq_error_iff]
  constructor
  · rintro (h | ⟨compiled, -, ⟨⟩⟩)
    exact h
  · exact .inl

theorem exists_clauses_eq_ok_iff (escape : Escaper) (name : String) :
    (∃ clauses, t.clauses escape name = .ok clauses) ↔ ∀ entry ∈ t.columns, IsSound entry := by
  simp only [← exists_compileColumn_eq_ok_iff escape t.primaryKey]
  rw [← exists_mapM_eq_ok_iff]
  constructor
  · rintro ⟨clauses, h⟩
    obtain ⟨compiled, hcompiled, -⟩ := bind_eq_ok_iff.mp h
    exact ⟨compiled, hcompiled⟩
  · rintro ⟨compiled, hcompiled⟩
    exact ⟨_, bind_eq_ok_iff.mpr ⟨compiled, hcompiled, rfl⟩⟩

end Table

/-! ## Registered tables -/

namespace Registry

variable {r : Registry} {name : String} {t : Table} {e : SchemaError}

theorem WellFormed.compile_eq_error_iff_firstDefect (h : r.WellFormed) (ht : r.get name = .ok t)
    (escape : Escaper) : r.compile escape name = .error e ↔ FirstDefect t.columns e := by
  rw [h.compile_eq_error_iff, ← Table.clauses_eq_error_iff escape name]
  constructor
  · rintro (⟨hname, -⟩ | ⟨t', ht', hclauses⟩)
    · have hmissing := get_eq_error_iff.mpr ⟨hname, rfl⟩
      rw [ht] at hmissing
      cases hmissing
    · obtain rfl := Except.ok.inj (ht.symm.trans ht')
      exact hclauses
  · exact fun hclauses => .inr ⟨t, ht, hclauses⟩

theorem WellFormed.exists_compile_eq_ok_iff (h : r.WellFormed) (ht : r.get name = .ok t)
    (escape : Escaper) :
    (∃ ddl, r.compile escape name = .ok ddl) ↔ ∀ entry ∈ t.columns, IsSound entry := by
  rw [← Table.exists_clauses_eq_ok_iff escape name, exists_eq_ok_iff,
    exists_eq_ok_iff]
  refine forall_congr' fun e => not_congr ?_
  rw [h.compile_eq_error_iff_firstDefect ht, Table.clauses_eq_error_iff]

/-- A registered table compiles just when each column has a type and each reference on a column is a
foreign key. Otherwise the first column with a defect decides the error, a missing type before a bad
reference; the error is true of the column that it names, and columns behind it never matter. -/
theorem compile_firstDefect (hr : Reachable r) (ht : r.get name = .ok t) (escape : Escaper) :
    ((∃ ddl, r.compile escape name = .ok ddl) ↔
      ∀ entry ∈ t.columns, entry.2.type.isSome ∧ ∀ reference ∈ entry.2.foreignKey,
        ∃ key, ForeignKey.ofReference entry.1 reference = .ok key) ∧
    (∀ e, r.compile escape name = .error e ↔ FirstDefect t.columns e) ∧
    (∀ e, r.compile escape name = .error e →
      ∃ column c, t.column? column = some c ∧ e.IsTrueOf column c) ∧
    ∀ before entry after, t.columns = before ++ entry :: after → ¬IsSound entry →
      ∀ r' name' t' after', Reachable r' → r'.get name' = .ok t' →
        t'.columns = before ++ entry :: after' → ∀ escape' e,
          r.compile escape name = .error e ↔ r'.compile escape' name' = .error e := by
  have hwell := hr.wellFormed
  have herror : ∀ e, r.compile escape name = .error e ↔ FirstDefect t.columns e :=
    fun e => hwell.compile_eq_error_iff_firstDefect ht escape
  refine ⟨hwell.exists_compile_eq_ok_iff ht escape, herror, fun e h => ?_, ?_⟩
  · obtain ⟨before, entry, after, hcolumns, -, hdefect⟩ := (herror e).mp h
    have hnames := (hwell.tables _ (mem_of_get_eq_ok ht)).names
    have hentry : (entry.1, entry.2) ∈ t.columns := hcolumns ▸ List.mem_append_cons_self
    exact ⟨entry.1, entry.2, Keyed.get?_of_mem hnames hentry, hdefect.isTrueOf⟩
  · intro before entry after hcolumns hdefect r' name' t' after' hr' ht' hcolumns' escape' e
    have hheld : ∃ other ∈ before ++ [entry], ¬IsSound other :=
      ⟨entry, List.mem_append_right before (List.mem_singleton_self entry), hdefect⟩
    rw [herror, hr'.wellFormed.compile_eq_error_iff_firstDefect ht', hcolumns, hcolumns',
      List.append_cons, List.append_cons before entry after', firstDefect_append_iff hheld,
      firstDefect_append_iff hheld]

/-- A column with two defects, before another column with a defect and at the end. -/
theorem compile_firstDefect_posts :
    let id := ("id", Column.ofType "INT")
    let owner : String × Column := ("owner", { foreignKey := some { column := some "id" } })
    let editor := ("editor", (Column.ofType "INT").referringTo { table := some " " })
    let posts := ((Table.empty.withColumn id.1 id.2).withColumn owner.1 owner.2).withColumn
      editor.1 editor.2
    let drafts := (Table.empty.withColumn id.1 id.2).withColumn owner.1 owner.2
    let r : Registry := ⟨[("posts", posts), ("drafts", drafts)]⟩
    Reachable r ∧ r.get "posts" = .ok posts ∧ r.get "drafts" = .ok drafts ∧ ¬IsSound owner ∧
      r.compile Backend.sqlite.escape "posts" = .error (.missingType "owner") ∧
      r.compile Backend.mySql.escape "drafts" = .error (.missingType "owner") ∧
      ∃ column c, posts.column? column = some c ∧
        (SchemaError.missingType "owner").IsTrueOf column c := by
  intro id owner editor posts drafts r
  have hdrafts : drafts.Built := (Table.Built.empty.withColumn _ _).withColumn _ _
  have hposts : posts.Built := hdrafts.withColumn _ _
  have hreachable : Reachable r :=
    @Reachable.withTable _ _ "drafts" drafts
      (@Reachable.withTable _ _ "posts" posts .empty hposts rfl) hdrafts rfl
  have hget : r.get "posts" = .ok posts := rfl
  have hget' : r.get "drafts" = .ok drafts := rfl
  have howner : ¬IsSound owner := fun h => nomatch h.1
  have hid : ∀ other ∈ [id], IsSound other := by
    intro other hother
    obtain rfl := List.mem_singleton.mp hother
    exact ⟨rfl, nofun⟩
  obtain ⟨-, herror, htrue, hbehind⟩ :=
    compile_firstDefect hreachable hget Backend.sqlite.escape
  have hfailed := (herror (.missingType "owner")).mpr
    ⟨[id], owner, [editor], rfl, hid, .missingType rfl⟩
  have hsame := hbehind [id] owner [editor] rfl howner r "drafts" drafts [] hreachable hget' rfl
    Backend.mySql.escape (.missingType "owner")
  exact ⟨hreachable, hget, hget', howner, hfailed, hsame.mp hfailed, htrue _ hfailed⟩

end Registry

end SqlSchema.Schema
