import SqlSchema.Statement.Render

/-! # What goes through the escaping rule

Every statement falls into pieces that do not depend on the rule: some are written as they are
given, and some go through the rule once. So a statement under a rule is a statement in which
nothing is escaped, of names and values that the rule has been applied to. Insertions and selections
escape every name, and updates of every row all names but that of the table; statements under a
condition, and deletions, escape nothing. -/

namespace SqlSchema.Statement

open SqlSchema.Text

/-! ## Statements that are asked for -/

inductive Form
  | insert (table : String) (values : Values)
  | select (table : String) (selection : Selection)
  | update (table : String) (values : Values) (condition : String)
  | updateAll (table : String) (values : Values)
  | delete (table condition : String)
  | deleteAll (table : String)

/-- The text of a statement, of which there is none for a blank condition. -/
def Form.sql? (escape : Escaper) : Form → Option String
  | .insert table vs => some (Statement.insert escape table vs)
  | .select table s => some (Statement.select escape table s)
  | .update table vs condition => update? table vs condition
  | .updateAll table vs => some (Statement.updateAll escape table vs)
  | .delete table condition => delete? table condition
  | .deleteAll table => some (Statement.deleteAll table)

/-! ## Pieces -/

/-- A piece of a statement: a text as it is given, or one that goes through the rule. -/
inductive Piece
  | given (s : String)
  | escaped (s : String)
  deriving Repr, DecidableEq

def Piece.text (escape : Escaper) : Piece → String
  | .given s => s
  | .escaped s => escape s

def written (escape : Escaper) : List Piece → String
  | [] => ""
  | piece :: pieces => piece.text escape ++ written escape pieces

/-- The texts that go through the rule, in order. -/
def ruled : List Piece → List String
  | [] => []
  | .given _ :: pieces => ruled pieces
  | .escaped s :: pieces => s :: ruled pieces

def joinedPieces (separator : String) : List (List Piece) → List Piece
  | [] => []
  | [item] => item
  | item :: rest => item ++ .given separator :: joinedPieces separator rest

theorem written_append (escape : Escaper) (pieces more : List Piece) :
    written escape (pieces ++ more) = written escape pieces ++ written escape more := by
  induction pieces with
  | nil => exact String.empty_append.symm
  | cons piece pieces ih => rw [List.cons_append, written, ih, written, String.append_assoc]

theorem ruled_append (pieces more : List Piece) :
    ruled (pieces ++ more) = ruled pieces ++ ruled more := by
  fun_induction ruled pieces with
  | case1 => rfl
  | case2 s pieces ih => exact ih
  | case3 s pieces ih => exact congrArg (s :: ·) ih

theorem written_joinedPieces (escape : Escaper) (separator : String) (items : List (List Piece)) :
    written escape (joinedPieces separator items) =
      joined separator (items.map (written escape)) := by
  fun_induction joinedPieces separator items with
  | case1 => rfl
  | case2 item => rfl
  | case3 item rest hrest ih =>
      cases rest with
      | nil => exact absurd rfl hrest
      | cons next rest =>
          simp [written_append, written, Piece.text, ih, joined, String.append_assoc]

theorem ruled_joinedPieces (separator : String) (items : List (List Piece)) :
    ruled (joinedPieces separator items) = items.flatMap ruled := by
  fun_induction joinedPieces separator items with
  | case1 => rfl
  | case2 item => simp
  | case3 item rest _ ih => rw [ruled_append, ruled, ih, List.flatMap_cons]

/-! ## Values -/

/-- What the rule is applied to in a value: its literal text, but for the null and for bytes. -/
def escapable : Value → Option String
  | .null => none
  | .bytes _ => none
  | v => some v.literalText

/-- A literal is the escaped text between single quotes, or does not depend on the rule. -/
theorem sqlLiteral_eq (escape : Escaper) (v : Value) :
    v.sqlLiteral escape =
      match escapable v with
      | some s => "'" ++ escape s ++ "'"
      | none => v.sqlLiteral id := by
  cases v <;> rfl

/-- The value with the rule applied, as a text. The null and bytes stay as they are. -/
def ruledValue (escape : Escaper) (v : Value) : Value :=
  match escapable v with
  | some s => .text (escape s)
  | none => v

def literalPieces (v : Value) : List Piece :=
  match escapable v with
  | some s => [.given "'", .escaped s, .given "'"]
  | none => [.given (v.sqlLiteral id)]

theorem written_literalPieces (escape : Escaper) (v : Value) :
    written escape (literalPieces v) = v.sqlLiteral escape := by
  rw [sqlLiteral_eq, literalPieces]
  cases escapable v <;> simp [written, Piece.text, String.append_assoc]

theorem ruled_literalPieces (v : Value) : ruled (literalPieces v) = (escapable v).toList := by
  rw [literalPieces]
  cases escapable v <;> rfl

theorem sqlLiteral_ruledValue (escape : Escaper) (v : Value) :
    (ruledValue escape v).sqlLiteral id = v.sqlLiteral escape := by
  cases v <;> rfl

/-! ## Statements in pieces -/

def columnPieces : Option (List String) → List Piece
  | some (first :: rest) => joinedPieces "," ((first :: rest).map fun column => [.escaped column])
  | _ => [.given "*"]

def assignmentPieces (vs : Values) : List Piece :=
  joinedPieces "," (vs.pairs.map fun pair => .escaped pair.1 :: .given "=" :: literalPieces pair.2)

def Form.pieces? : Form → Option (List Piece)
  | .insert table vs =>
    some ([.given "INSERT INTO ", .escaped table, .given " ("]
      ++ joinedPieces "," (vs.columns.map fun column => [.escaped column]) ++ [.given ") VALUES ("]
      ++ joinedPieces "," (vs.pairs.map fun pair => literalPieces pair.2) ++ [.given ")"])
  | .select table s =>
    some ([.given "SELECT "] ++ columnPieces s.columns ++ [.given " FROM ", .escaped table,
      .given (fragmentClause " WHERE " s.condition),
      .given (fragmentClause " GROUP BY " s.grouping),
      .given (fragmentClause " ORDER BY " s.order), .given (limitClause s.limit)])
  | .update table vs condition => (update? table vs condition).map fun sql => [.given sql]
  | .updateAll table vs =>
    some ([.given "UPDATE ", .given table, .given " SET "] ++ assignmentPieces vs)
  | .delete table condition => (delete? table condition).map fun sql => [.given sql]
  | .deleteAll table => some [.given (Statement.deleteAll table)]

def Form.ruledTexts : Form → List String
  | .insert table vs =>
    table :: (vs.columns ++ vs.pairs.flatMap fun pair => (escapable pair.2).toList)
  | .select table s => s.columns.getD [] ++ [table]
  | .updateAll _ vs => vs.pairs.flatMap fun pair => pair.1 :: (escapable pair.2).toList
  | .update _ _ _ | .delete _ _ | .deleteAll _ => []

def ruledValues (escape : Escaper) (vs : Values) : Values :=
  ⟨vs.pairs.map fun pair => (escape pair.1, ruledValue escape pair.2)⟩

def Form.applied (escape : Escaper) : Form → Form
  | .insert table vs => .insert (escape table) (ruledValues escape vs)
  | .select table s => .select (escape table) { s with columns := s.columns.map (·.map escape) }
  | .updateAll table vs => .updateAll table (ruledValues escape vs)
  | .update table vs condition => .update table vs condition
  | .delete table condition => .delete table condition
  | .deleteAll table => .deleteAll table

section Pieces

variable (escape : Escaper)

theorem written_columnPieces (columns : Option (List String)) :
    written escape (columnPieces columns) = columnList escape columns := by
  match columns with
  | none => rfl
  | some [] => rfl
  | some (first :: rest) =>
      simp [columnPieces, columnList, written_joinedPieces, written, Piece.text, Function.comp_def]

theorem ruled_columnPieces (columns : Option (List String)) :
    ruled (columnPieces columns) = columns.getD [] := by
  match columns with
  | none => rfl
  | some [] => rfl
  | some (first :: rest) =>
      simp [columnPieces, ruled_joinedPieces, ruled, List.flatMap_map]

/-- The pieces of a statement, one behind another, are its text under any rule. -/
theorem Form.sql?_eq_written (f : Form) : f.sql? escape = f.pieces?.map (written escape) := by
  cases f with
  | insert table vs =>
      have hcolumns : vs.columns.map (written escape ∘ fun column => [.escaped column]) =
          vs.columns.map escape := by
        simp [Function.comp_def, written, Piece.text]
      have hliterals : vs.pairs.map (written escape ∘ fun pair => literalPieces pair.2) =
          literals escape vs := by
        simp [Function.comp_def, written_literalPieces, literals]
      unfold sql? pieces? Statement.insert
      simp only [Option.map_some, written_append, written_joinedPieces, List.map_map, hcolumns,
        hliterals, written, Piece.text, String.append_assoc, String.append_empty]
  | select table s =>
      unfold sql? pieces? Statement.select
      simp only [Option.map_some, written_append, written_columnPieces, written, Piece.text,
        String.append_assoc, String.append_empty]
  | update table vs condition =>
      simp [sql?, pieces?, Function.comp_def, written, Piece.text]
  | updateAll table vs =>
      have hassignments : vs.pairs.map (written escape ∘ fun pair =>
            .escaped pair.1 :: .given "=" :: literalPieces pair.2) =
          vs.pairs.map fun pair => escape pair.1 ++ "=" ++ pair.2.sqlLiteral escape := by
        simp [Function.comp_def, written, Piece.text, written_literalPieces, String.append_assoc]
      unfold sql? pieces? Statement.updateAll assignmentPieces
      simp only [Option.map_some, written_append, written_joinedPieces, List.map_map, hassignments,
        written, Piece.text, String.append_assoc, String.append_empty]
  | delete table condition =>
      simp [sql?, pieces?, Function.comp_def, written, Piece.text]
  | deleteAll table => simp [sql?, pieces?, written, Piece.text]

/-- Of the pieces of a statement the same texts go through any rule. -/
theorem Form.map_ruled_pieces? (f : Form) :
    f.pieces?.map ruled = (f.sql? escape).map fun _ => f.ruledTexts := by
  cases f with
  | insert table vs =>
      simp [pieces?, sql?, ruledTexts, ruled_append, ruled, ruled_joinedPieces, List.flatMap_map,
        ruled_literalPieces]
  | select table s =>
      simp [pieces?, sql?, ruledTexts, ruled_append, ruled, ruled_columnPieces]
  | update table vs condition => simp [pieces?, sql?, ruledTexts, ruled, Function.comp_def]
  | updateAll table vs =>
      simp [pieces?, sql?, ruledTexts, ruled, assignmentPieces, ruled_joinedPieces,
        List.flatMap_map, ruled_literalPieces]
  | delete table condition => simp [pieces?, sql?, ruledTexts, ruled, Function.comp_def]
  | deleteAll table => rfl

end Pieces

/-! ## Statements and the rule -/

section Rule

variable (escape : Escaper)

theorem columns_ruledValues (vs : Values) :
    (ruledValues escape vs).columns = vs.columns.map escape := by
  simp [Values.columns, Keyed.names, ruledValues, Function.comp_def]

theorem literals_ruledValues (vs : Values) :
    literals id (ruledValues escape vs) = literals escape vs := by
  simp [literals, ruledValues, Function.comp_def, sqlLiteral_ruledValue]

theorem columnList_map (columns : Option (List String)) :
    columnList id (columns.map (·.map escape)) = columnList escape columns := by
  match columns with
  | none => rfl
  | some [] => rfl
  | some (first :: rest) => simp [columnList]

theorem insert_ruledValues (table : String) (vs : Values) :
    insert id (escape table) (ruledValues escape vs) = insert escape table vs := by
  unfold insert
  rw [columns_ruledValues, literals_ruledValues, List.map_id]
  rfl

theorem select_ruled (table : String) (s : Selection) :
    select id (escape table) { s with columns := s.columns.map (·.map escape) } =
      select escape table s := by
  unfold select
  rw [columnList_map]
  rfl

theorem updateAll_ruledValues (table : String) (vs : Values) :
    updateAll id table (ruledValues escape vs) = updateAll escape table vs := by
  simp [updateAll, ruledValues, Function.comp_def, sqlLiteral_ruledValue]

/-- An update of every row has the name of its table as it is given. -/
theorem updateAll_eq_iff_table (table other : String) (vs : Values) :
    updateAll escape table vs = updateAll escape other vs ↔ table = other := by
  unfold updateAll
  simp only [String.append_assoc, String.append_right_inj]
  exact String.append_left_inj _

/-- A statement under a rule is one in which nothing is escaped, with the rule applied to its
texts. -/
theorem Form.sql?_eq_sql?_applied (f : Form) : f.sql? escape = (f.applied escape).sql? id := by
  cases f with
  | insert table vs => exact congrArg some (insert_ruledValues escape table vs).symm
  | select table s => exact congrArg some (select_ruled escape table s).symm
  | update table vs condition => rfl
  | updateAll table vs => exact congrArg some (updateAll_ruledValues escape table vs).symm
  | delete table condition => rfl
  | deleteAll table => rfl

/-- Whatever the rule, a statement is made of the same pieces. Through the rule go, once each and in
this order, the table, the columns and the literal texts of an insertion, the columns and the table
of a selection, and the columns and the literal texts of an update of every row; the null, bytes,
fragments and limits do not. So a statement under a rule is the one under no rule that is asked for
with these texts ruled. An update under a condition and a deletion are the same under any rule. The
table of an update of every row does not go through the rule: to rule it would change nothing only
where the rule keeps the name. -/
theorem sql?_ruled :
    (∀ f : Form, f.sql? escape = f.pieces?.map (written escape) ∧
      f.pieces?.map ruled = (f.sql? escape).map (fun _ => f.ruledTexts) ∧
      f.sql? escape = (f.applied escape).sql? id) ∧
    (∀ (other : Escaper) (table : String) (vs : Values) (condition : String),
      (Form.update table vs condition).sql? escape = (Form.update table vs condition).sql? other ∧
      (Form.delete table condition).sql? escape = (Form.delete table condition).sql? other) ∧
    ∀ (table : String) (vs : Values),
      (Form.updateAll table vs).sql? escape =
          (Form.updateAll (escape table) (ruledValues escape vs)).sql? id ↔
        escape table = table := by
  refine ⟨fun f => ⟨f.sql?_eq_written escape, f.map_ruled_pieces? escape,
    f.sql?_eq_sql?_applied escape⟩, fun other table vs condition => ⟨rfl, rfl⟩,
    fun table vs => ?_⟩
  unfold Form.sql?
  rw [Option.some_inj, updateAll_ruledValues, updateAll_eq_iff_table]
  exact eq_comm

end Rule

/-- A quote in the name of a table is doubled by an insertion and a selection, and not by an update
of every row. -/
theorem updateAll_unescaped_table :
    let vs : Values := ⟨[("a", .int32 1)]⟩
    insert Backend.sqlite.escape "it's" vs = "INSERT INTO it''s (a) VALUES ('1')" ∧
      select Backend.sqlite.escape "it's" {} = "SELECT * FROM it''s" ∧
      updateAll Backend.sqlite.escape "it's" vs = "UPDATE it's SET a='1'" ∧
      updateAll Backend.sqlite.escape "it's" vs ≠
        updateAll id (Backend.sqlite.escape "it's") (ruledValues Backend.sqlite.escape vs) := by
  decide +kernel

end SqlSchema.Statement
