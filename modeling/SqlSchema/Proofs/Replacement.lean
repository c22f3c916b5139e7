import SqlSchema.Proofs.Keyed
import SqlSchema.Proofs.Schema.WellFormed
import SqlSchema.Proofs.Statement.Literals

/-! # Entries that are replaced

The columns of values and of a table, and the tables of a schema, are entries under names. However
often a name is used again, its entry stays in its first place and holds what came last. So an
insertion says nothing of a value that another one has replaced. -/

namespace SqlSchema

open SqlSchema.Keyed

/-! ## Values -/

namespace Values

def setAll (vs : Values) (calls : List (String × Value)) : Values :=
  calls.foldl (fun vs call => vs.set call.1 call.2) vs

theorem setAll_eq (vs : Values) (calls : List (String × Value)) :
    vs.setAll calls = ⟨putAll calls vs.pairs⟩ := by
  induction calls generalizing vs with
  | nil => rfl
  | cons call calls ih => exact ih (vs.set call.1 call.2)

theorem ofList_eq_iff {calls : List (String × Value)} {vs : Values} :
    ofList calls = vs ↔ Keeps calls vs.pairs := by
  obtain ⟨pairs⟩ := vs
  rw [ofList, mk.injEq]
  exact putAll_nil_eq_iff

/-- The same first places and last values make the same values. -/
theorem ofList_congr {calls others : List (String × Value)}
    (hnames : (names calls).eraseDups = (names others).eraseDups)
    (hlast : ∀ column, last? column calls = last? column others) :
    ofList calls = ofList others :=
  congrArg mk (putAll_eq_putAll_iff.mpr ⟨hnames, hlast⟩)

theorem ofList_overwritten {column : String} {after : List (String × Value)}
    (h : column ∈ names after) (before : List (String × Value)) (v w : Value) :
    ofList (before ++ (column, v) :: after) = ofList (before ++ (column, w) :: after) :=
  ofList_congr (by simp) fun other => last?_overwritten h other before v w

end Values

namespace Schema

/-! ## Columns of a table -/

namespace Table

inductive Step
  | withColumn (name : String) (column : Column)
  | withPrimaryKey (column : String)

def withStep (t : Table) : Step → Table
  | .withColumn name column => t.withColumn name column
  | .withPrimaryKey column => t.withPrimaryKey column

def Step.column? : Step → Option (String × Column)
  | .withColumn name column => some (name, column)
  | .withPrimaryKey _ => none

def ofSteps (steps : List Step) : Table :=
  steps.foldl withStep empty

theorem columns_foldl_withStep (steps : List Step) (t : Table) :
    (steps.foldl withStep t).columns = putAll (steps.filterMap Step.column?) t.columns := by
  induction steps generalizing t with
  | nil => rfl
  | cons step steps ih =>
      rw [List.foldl_cons, ih]
      cases step <;> rfl

theorem columns_ofSteps_eq_iff {steps : List Step} {columns : List (String × Column)} :
    (ofSteps steps).columns = columns ↔ Keeps (steps.filterMap Step.column?) columns := by
  rw [ofSteps, columns_foldl_withStep]
  exact putAll_nil_eq_iff

end Table

/-! ## Tables of a schema -/

namespace Registry

open SqlSchema.Traversal

/-- Tables registered one after another, up to one that is refused. -/
def registerAll (r : Registry) (calls : List (String × Table)) : Except SchemaError Registry :=
  calls.foldlM (fun r call => r.withTable call.1 call.2) r

theorem registerAll_eq_ok_iff_putAll {calls : List (String × Table)} {r r' : Registry} :
    r.registerAll calls = .ok r' ↔
      (∀ call ∈ calls, call.2.validate call.1 = .ok ()) ∧ ⟨putAll calls r.tables⟩ = r' := by
  induction calls generalizing r with
  | nil => simp [registerAll, putAll, pure, Except.pure]
  | cons call calls ih =>
      rw [registerAll, List.foldlM_cons, bind_eq_ok_iff, List.forall_mem_cons, and_assoc]
      constructor
      · rintro ⟨next, hnext, hrest⟩
        obtain ⟨hvalid, rfl⟩ := withTable_eq_ok_iff.mp hnext
        exact ⟨hvalid, ih.mp hrest⟩
      · rintro ⟨hvalid, hrest⟩
        exact ⟨_, withTable_eq_ok_iff.mpr ⟨hvalid, rfl⟩, ih.mpr hrest⟩

theorem WellFormed.registerAll_eq_ok_iff {calls : List (String × Table)} {r r' : Registry}
    (h : r.WellFormed) : r.registerAll calls = .ok r' ↔
      (∀ call ∈ calls, call.2.validate call.1 = .ok ()) ∧ Keeps (r.tables ++ calls) r'.tables := by
  obtain ⟨tables⟩ := r'
  rw [registerAll_eq_ok_iff_putAll, mk.injEq, putAll_eq_iff h.names]

end Registry

end Schema

/-! ## Insertions -/

namespace Statement

open SqlSchema.Schema SqlSchema.Text

/-- A row that is made by sets, as columns and their values: every column that was set, once and in
the order of the first sets, and for each the value that it was set to last. -/
structure RowOf (calls : List (String × Value)) (columns : List String) (values : List Value) :
    Prop where
  order : columns = (names calls).eraseDups
  distinct : columns.Nodup
  last : List.Forall₂ (fun column v => last? column calls = some v) columns values

/-- The values of an insertion as it lists them, up to its end. -/
def rowText (escape : Escaper) (values : List Value) : String :=
  ",".intercalate (values.map (Value.sqlLiteral escape)) ++ ")"

theorem rowOf_ofList (calls : List (String × Value)) :
    RowOf calls (Values.ofList calls).columns ((Values.ofList calls).pairs.map Prod.snd) := by
  have hkeeps : Keeps calls (Values.ofList calls).pairs := Values.ofList_eq_iff.mp rfl
  refine ⟨hkeeps.order, hkeeps.nodup, ?_⟩
  rw [Values.columns, names, List.forall₂_map_left_iff, List.forall₂_map_right_iff,
    List.forall₂_same]
  exact hkeeps.values

theorem rowText_eq (escape : Escaper) (vs : Values) :
    rowText escape (vs.pairs.map Prod.snd) =
      joined "," ((meanings vs).map (Literal.sql escape)) ++ ")" := by
  rw [← literals_eq, joined_eq_intercalate, rowText, literals, List.map_map]
  rfl

/-- Values, tables and schemas hold just the names that were put into them, in the order of the
first puts, and under each what was put last. It is so for values however they are made, for a table
whatever primary keys are named between its columns, and for a schema in which valid tables are
registered, the tables that it had before counting as put first. An insertion of values lists every
column that was set once and then, column by column, the literals of the values that were set last;
a backend reads just these values back. The text is the same for all sets that agree on first places
and last values, and so it does not depend on a value that another one replaces. -/
theorem insert_keepsLastValues :
    (∀ (calls : List (String × Value)) (vs : Values),
        (Values.empty.setAll calls = vs ↔ Keeps calls vs.pairs) ∧
          (Values.ofList calls = vs ↔ Keeps calls vs.pairs)) ∧
      (∀ (steps : List Table.Step) (columns : List (String × Column)),
        (Table.ofSteps steps).columns = columns ↔
          Keeps (steps.filterMap Table.Step.column?) columns) ∧
      (∀ start : Registry, start.Reachable → ∀ (calls : List (String × Table)) (r : Registry),
        start.registerAll calls = .ok r ↔
          (∀ call ∈ calls, call.2.validate call.1 = .ok ()) ∧
            Keeps (start.tables ++ calls) r.tables) ∧
      (∀ calls : List (String × Value), ∃ columns values, RowOf calls columns values ∧
        (∀ (escape : Escaper) (table : String), insert escape table (Values.ofList calls) =
          insertHead escape table columns ++ rowText escape values) ∧
        ∀ b : Backend, Literal.readRow b (rowText b.escape values).toList =
          some (values.map Literal.ofValue, [])) ∧
      (∀ calls others : List (String × Value),
        (names calls).eraseDups = (names others).eraseDups →
        (∀ column, last? column calls = last? column others) →
        ∀ (escape : Escaper) (table : String), insert escape table (Values.ofList calls) =
          insert escape table (Values.ofList others)) ∧
      ∀ (before : List (String × Value)) (column : String) (v w : Value)
        (after : List (String × Value)), column ∈ names after →
        ∀ (escape : Escaper) (table : String),
          insert escape table (Values.ofList (before ++ (column, v) :: after)) =
            insert escape table (Values.ofList (before ++ (column, w) :: after)) := by
  refine ⟨fun calls vs => ⟨?_, Values.ofList_eq_iff⟩,
    fun steps columns => Table.columns_ofSteps_eq_iff,
    fun start hstart calls r => hstart.wellFormed.registerAll_eq_ok_iff,
    fun calls => ⟨_, _, rowOf_ofList calls, fun escape table => ?_, fun b => ?_⟩, ?_, ?_⟩
  · rw [Values.setAll_eq]
    exact Values.ofList_eq_iff
  · rw [rowText_eq]
    exact insert_eq escape table _
  · rw [rowText_eq, readRow_insert, meanings, List.map_map]
    rfl
  · intro calls others hnames hlast escape table
    rw [Values.ofList_congr hnames hlast]
  · intro before column v w after h escape table
    rw [Values.ofList_overwritten h before v w]

/-- A table that is registered again between others, and a column that is set again. -/
theorem insert_keepsLastValues_users :
    let users := (Table.empty.withPrimaryKey "id").withColumn "id" (Column.ofType "INT")
    let start : Registry := ⟨[("users", .empty)]⟩
    let tables := [("posts", .empty), ("users", users)]
    let calls : List (String × Value) := [("id", .int32 1), ("name", .text "x"), ("id", .int32 2)]
    let others : List (String × Value) := [("id", .int32 2), ("name", .null), ("name", .text "x")]
    start.Reachable ∧ (∀ table ∈ tables, table.2.validate table.1 = .ok ()) ∧
      start.registerAll tables = .ok ⟨[("users", users), ("posts", .empty)]⟩ ∧
      Keeps (start.tables ++ tables) [("users", users), ("posts", .empty)] ∧
      (names calls).eraseDups = (names others).eraseDups ∧
      (∀ column, last? column calls = last? column others) ∧
      insert Backend.sqlite.escape "users" (Values.ofList calls) =
        insert Backend.sqlite.escape "users" (Values.ofList others) ∧
      "id" ∈ names [("name", Value.text "x"), ("id", .int32 2)] ∧
      insert Backend.sqlite.escape "users" (Values.ofList calls) =
        insert Backend.sqlite.escape "users"
          (Values.ofList [("id", .null), ("name", .text "x"), ("id", .int32 2)]) ∧
      insert Backend.sqlite.escape "users" (Values.ofList calls) =
        "INSERT INTO users (id,name) VALUES ('2','x')" := by
  intro users start tables calls others
  obtain ⟨-, -, hregister, -, hsame, hreplaced⟩ := insert_keepsLastValues
  have hstart : start.Reachable := @Registry.Reachable.withTable _ _ "users" _ .empty .empty rfl
  have hregistered : start.registerAll tables = .ok ⟨[("users", users), ("posts", .empty)]⟩ := rfl
  obtain ⟨hvalid, hkeeps⟩ := (hregister start hstart tables _).mp hregistered
  have hnames : (names calls).eraseDups = (names others).eraseDups := rfl
  have hlast : ∀ column, last? column calls = last? column others := by
    intro column
    simp only [calls, others, last?_cons]
    by_cases hid : "id" = column
    · simp [← hid, last?]
    · by_cases hname : "name" = column <;> simp [hid, hname, last?]
  have hid : "id" ∈ names [("name", Value.text "x"), ("id", .int32 2)] := by simp
  exact ⟨hstart, hvalid, hregistered, hkeeps, hnames, hlast, hsame calls others hnames hlast _ _,
    hid, hreplaced [] "id" (.int32 1) .null _ hid _ _, by decide +kernel⟩

end Statement

end SqlSchema
