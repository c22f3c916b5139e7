import SqlSchema.Proofs.Literal.RoundTrip

/-! # The literals of statements

An insertion and an update of every row hold one literal for each value, whatever texts the names
and the values are made of. The literals are read back as the values, so they decide the
statement. -/

namespace SqlSchema.Statement

open SqlSchema.Text

theorem joined_eq_intercalate (separator : String) (texts : List String) :
    joined separator texts = separator.intercalate texts := by
  induction texts with
  | nil => rfl
  | cons s texts ih =>
      cases texts with
      | nil => rfl
      | cons t texts => simp [joined, ih]

/-- What the values of a row stand for, column by column. -/
def meanings (vs : Values) : List Literal :=
  vs.pairs.map fun pair => Literal.ofValue pair.2

def assigned (b : Backend) (vs : Values) : List (String × Literal) :=
  vs.pairs.map fun pair => (b.escape pair.1, Literal.ofValue pair.2)

theorem literals_eq (escape : Escaper) (vs : Values) :
    literals escape vs = (meanings vs).map (Literal.sql escape) := by
  simp [literals, meanings, Literal.sqlLiteral_eq_sql]

theorem assigned_eq_zip (b : Backend) (vs : Values) :
    assigned b vs = (vs.columns.map b.escape).zip (meanings vs) := by
  rw [Values.columns, Keyed.names, List.map_map, meanings, List.zip_map']
  rfl

/-! ## The text of a statement around its literals -/

def insertHead (escape : Escaper) (table : String) (columns : List String) : String :=
  "INSERT INTO " ++ escape table ++ " (" ++ ",".intercalate (columns.map escape) ++ ") VALUES ("

theorem insert_eq (escape : Escaper) (table : String) (vs : Values) :
    insert escape table vs = insertHead escape table vs.columns ++
      (joined "," ((meanings vs).map (Literal.sql escape)) ++ ")") := by
  unfold insert insertHead
  rw [literals_eq, ← joined_eq_intercalate]
  simp only [String.append_assoc]

theorem updateAll_eq (b : Backend) (table : String) (vs : Values) :
    updateAll b.escape table vs =
      "UPDATE " ++ table ++ " SET " ++ joined "," ((assigned b vs).map (Literal.assignment b)) := by
  simp [updateAll, assigned, Literal.assignment, Literal.sqlLiteral_eq_sql, Function.comp_def]

/-! ## Reading the literals of a statement -/

theorem readRow_insert (b : Backend) (vs : Values) :
    Literal.readRow b (joined "," ((meanings vs).map (Literal.sql b.escape)) ++ ")").toList =
      some (meanings vs, []) := by
  rw [String.toList_append]
  exact Literal.readRow_joined b (meanings vs) []

theorem readAssignments_updateAll (b : Backend) (vs : Values) :
    Literal.readAssignments b (vs.columns.map b.escape)
        (joined "," ((assigned b vs).map (Literal.assignment b))).toList =
      some (meanings vs) := by
  have hnames : (assigned b vs).map Prod.fst = vs.columns.map b.escape := by
    simp [assigned, Values.columns, Keyed.names, Function.comp_def]
  have hmeanings : (assigned b vs).map Prod.snd = meanings vs := by
    simp [assigned, meanings, Function.comp_def]
  rw [← hnames, ← hmeanings]
  exact Literal.readAssignments_joined b (assigned b vs)

/-- Insertions into the same columns are the same text just when the values stand for the same. -/
theorem insert_eq_iff (b : Backend) (table : String) {vs ws : Values}
    (hcolumns : vs.columns = ws.columns) :
    insert b.escape table vs = insert b.escape table ws ↔ meanings vs = meanings ws := by
  rw [insert_eq, insert_eq, hcolumns]
  constructor
  · intro h
    have hread := readRow_insert b vs
    rw [String.append_right_inj _ |>.mp h, readRow_insert] at hread
    simpa using hread.symm
  · intro h
    rw [h]

/-- Updates of the same columns are the same text just when the values stand for the same. -/
theorem updateAll_eq_iff (b : Backend) (table : String) {vs ws : Values}
    (hcolumns : vs.columns = ws.columns) :
    updateAll b.escape table vs = updateAll b.escape table ws ↔ meanings vs = meanings ws := by
  rw [updateAll_eq, updateAll_eq]
  constructor
  · intro h
    have hread := readAssignments_updateAll b vs
    rw [String.append_right_inj _ |>.mp h, hcolumns, readAssignments_updateAll] at hread
    simpa using hread.symm
  · intro h
    rw [assigned_eq_zip, assigned_eq_zip, hcolumns, h]

/-! ## Statements and their values -/

/-- Behind its head an insertion is read as one literal for each value and the closing parenthesis,
and behind `SET` an update of every row as one assignment for each column. The literal of a value
is read as the null for the null only, as the bytes for bytes, and as the literal text for any
other value. So the statements of two rows with the same columns are the same text just when the
values of the rows stand for the same. -/
theorem literals_read_back (b : Backend) (table : String) (vs : Values) :
    (∃ row, insert b.escape table vs = "INSERT INTO " ++ b.escape table ++ " ("
          ++ ",".intercalate (vs.columns.map b.escape) ++ ") VALUES (" ++ row ∧
        Literal.readRow b row.toList = some (vs.pairs.map fun pair => .ofValue pair.2, [])) ∧
      (∃ assignments, updateAll b.escape table vs = "UPDATE " ++ table ++ " SET " ++ assignments ∧
        Literal.readAssignments b (vs.columns.map b.escape) assignments.toList =
          some (vs.pairs.map fun pair => .ofValue pair.2)) ∧
      (∀ v, (Literal.ofValue v = .null ↔ v = .null) ∧
        (∀ data, Literal.ofValue v = .bytes data ↔ v = .bytes data) ∧
        ∀ s, Literal.ofValue v = .text s ↔
          v ≠ .null ∧ (∀ data, v ≠ .bytes data) ∧ v.literalText = s) ∧
      ∀ ws : Values, vs.columns = ws.columns →
        (insert b.escape table vs = insert b.escape table ws ↔ meanings vs = meanings ws) ∧
          (updateAll b.escape table vs = updateAll b.escape table ws ↔
            meanings vs = meanings ws) := by
  refine ⟨⟨_, insert_eq b.escape table vs, readRow_insert b vs⟩,
    ⟨_, updateAll_eq b table vs, readAssignments_updateAll b vs⟩, ?_, ?_⟩
  · intro v
    exact ⟨Literal.ofValue_eq_null_iff v, Literal.ofValue_eq_bytes_iff v,
      Literal.ofValue_eq_text_iff v⟩
  · intro ws hcolumns
    exact ⟨insert_eq_iff b table hcolumns, updateAll_eq_iff b table hcolumns⟩

/-- A text that spells the null is not the null. -/
theorem insert_text_ne_insert_null :
    (Values.mk [("a", .text "NULL")]).columns = (Values.mk [("a", .null)]).columns ∧
      insert Backend.mySql.escape "t" ⟨[("a", .text "NULL")]⟩ ≠
        insert Backend.mySql.escape "t" ⟨[("a", .null)]⟩ := by
  refine ⟨rfl, ?_⟩
  intro h
  have hmeanings :=
    ((literals_read_back .mySql "t" ⟨[("a", .text "NULL")]⟩).2.2.2 ⟨[("a", .null)]⟩ rfl).1.mp h
  simp [meanings, Literal.ofValue] at hmeanings

end SqlSchema.Statement
