import SqlSchema.Proofs.Literal.Reader
import SqlSchema.Proofs.Schema.Clauses
import SqlSchema.Proofs.Text.Escape

/-! # Quoted names of a statement

How a backend reads a name between backticks: it ends at the first backtick that is not doubled, a
doubled one stands for a backtick, and every other character for itself. A statement writes its
names by the rule for literals, which knows nothing of backticks and changes other characters. So a
name is read as itself just when it has none of these. -/

namespace SqlSchema.Identifier

open SqlSchema.Literal SqlSchema.Schema SqlSchema.Text

/-! ## The reader -/

/-- The name up to the closing backtick, and what follows the backtick. -/
def readName : List Char → Option (List Char × List Char)
  | [] => none
  | c :: rest =>
    if c = '\x60' then
      match rest with
      | '\x60' :: rest => withHead '\x60' (readName rest)
      | _ => some ([], rest)
    else withHead c (readName rest)

/-- The form of a character that the reader takes for it. -/
def nameChar (c : Char) : List Char :=
  if c = '\x60' then ['\x60', '\x60'] else [c]

theorem readName_nameChar (c : Char) (rest : List Char) :
    readName (nameChar c ++ rest) = withHead c (readName rest) := by
  rw [readName.eq_def]
  by_cases h : c = '\x60' <;> simp [nameChar, h]

theorem readName_backtick {rest : List Char} (hrest : rest.head? ≠ some '\x60') :
    readName ('\x60' :: rest) = some ([], rest) := by
  rw [readName.eq_def]
  simp only [if_true]
  split
  · exact absurd rfl hrest
  · rfl

theorem readName_flatMap_nameChar (s : List Char) {rest : List Char}
    (hrest : rest.head? ≠ some '\x60') :
    readName (s.flatMap nameChar ++ '\x60' :: rest) = some (s, rest) := by
  induction s with
  | nil => exact readName_backtick hrest
  | cons c s ih =>
      rw [List.flatMap_cons, List.append_assoc, readName_nameChar, ih]
      rfl

/-- The form in which a name has been read is its own with the backticks doubled. -/
theorem eq_of_readName {cs s rest : List Char} (h : readName cs = some (s, rest)) :
    cs = s.flatMap nameChar ++ '\x60' :: rest := by
  fun_induction readName cs generalizing s with
  | case1 => cases h
  | case2 rest ih =>
      obtain ⟨⟨tail, behind⟩, htail, hread⟩ := Option.map_eq_some_iff.mp h
      obtain ⟨rfl, rfl⟩ := Prod.mk.inj hread
      rw [ih htail]
      rfl
  | case3 rest =>
      obtain ⟨rfl, rfl⟩ := Prod.mk.inj (Option.some.inj h)
      rfl
  | case4 c rest hc ih =>
      obtain ⟨⟨tail, behind⟩, htail, hread⟩ := Option.map_eq_some_iff.mp h
      obtain ⟨rfl, rfl⟩ := Prod.mk.inj hread
      rw [ih htail]
      simp [nameChar, hc]

/-! ## Escaped names -/

theorem flatMap_nameChar_of_notMem {s : List Char} (h : '\x60' ∉ s) : s.flatMap nameChar = s := by
  induction s with
  | nil => rfl
  | cons c s ih =>
      obtain ⟨hc, hs⟩ : '\x60' ≠ c ∧ '\x60' ∉ s := by simpa using h
      rw [List.flatMap_cons, ih hs, nameChar, if_neg (Ne.symm hc)]
      rfl

theorem count_flatMap_nameChar (s : List Char) :
    (s.flatMap nameChar).count '\x60' = 2 * s.count '\x60' := by
  induction s with
  | nil => rfl
  | cons c s ih =>
      rw [List.flatMap_cons, List.count_append, ih, List.count_cons, nameChar]
      split
      · simp_all
        omega
      · simp_all

/-- A name that the rule of a backend writes with its backticks doubled has no backtick, since the
rule doubles none, and no character that the rule changes. -/
theorem flatMap_escapeChar_eq_flatMap_nameChar_iff (b : Backend) (s : List Char) :
    s.flatMap b.escapeChar = s.flatMap nameChar ↔ ∀ c ∈ s, c ≠ '\x60' ∧ c ∉ b.altered := by
  constructor
  · intro h
    -- The rule keeps the number of backticks, which doubling would change unless there is none.
    have hcount : s.count '\x60' = 2 * s.count '\x60' := by
      rw [← count_flatMap_nameChar, ← h, b.count_backtick_flatMap_escapeChar]
    have hnone : '\x60' ∉ s := List.count_eq_zero.mp (by omega)
    have hlength : s.length + s.countP (· ∈ b.altered) = s.length := by
      rw [← b.length_flatMap_escapeChar, h, flatMap_nameChar_of_notMem hnone]
    have hkept : s.countP (· ∈ b.altered) = 0 := by omega
    intro c hc
    exact ⟨fun heq => hnone (heq ▸ hc), by simpa using List.countP_eq_zero.mp hkept c hc⟩
  · intro h
    rw [Backend.flatMap_escapeChar_of_forall_notMem fun c hc => (h c hc).2,
      flatMap_nameChar_of_notMem fun hmem => (h _ hmem).1 rfl]

section Escaped

variable (b : Backend) (s : String) {rest : List Char} (hrest : rest.head? ≠ some '\x60')

include hrest

/-- An escaped name is read as that name just when it has no backtick and nothing that the rule
changes. -/
theorem readName_escape_iff :
    readName ((b.escape s).toList ++ '\x60' :: rest) = some (s.toList, rest) ↔
      ∀ c ∈ s.toList, c ≠ '\x60' ∧ c ∉ b.altered := by
  rw [← flatMap_escapeChar_eq_flatMap_nameChar_iff, Backend.escape, String.toList_ofList]
  constructor
  · intro h
    exact List.append_cancel_right (eq_of_readName h)
  · intro h
    rw [h, readName_flatMap_nameChar _ hrest]

/-- Without a backtick an escaped name ends where it should, and is read as it was escaped. -/
theorem readName_escape_of_notMem (h : '\x60' ∉ s.toList) :
    readName ((b.escape s).toList ++ '\x60' :: rest) = some ((b.escape s).toList, rest) := by
  have hescaped : '\x60' ∉ (b.escape s).toList := by
    rw [← List.count_eq_zero] at h ⊢
    rw [Backend.escape, String.toList_ofList, b.count_backtick_flatMap_escapeChar, h]
  have hread := readName_flatMap_nameChar (b.escape s).toList hrest
  rwa [flatMap_nameChar_of_notMem hescaped] at hread

end Escaped

/-! ## Statements in parts -/

/-- A part of a statement: a text, or a name between backticks. -/
inductive Part
  | text (s : String)
  | name (s : String)
  deriving Repr, DecidableEq

def Part.sql (escape : Escaper) : Part → String
  | .text s => s
  | .name s => "`" ++ escape s ++ "`"

def names : List Part → List String
  | [] => []
  | .text _ :: parts => names parts
  | .name s :: parts => s :: names parts

def render (escape : Escaper) : List Part → String
  | [] => ""
  | part :: parts => part.sql escape ++ render escape parts

/-- Parts in which a text follows each name that does not begin with a backtick. -/
inductive Delimited : List Part → Prop where
  | nil : Delimited []
  | text (s : String) {parts : List Part} (hparts : Delimited parts) : Delimited (.text s :: parts)
  | name (s : String) {behind : String} {c : Char} {parts : List Part}
      (hbehind : behind.toList.head? = some c) (hc : c ≠ '\x60') (hparts : Delimited parts) :
      Delimited (.name s :: .text behind :: parts)

variable {escape : Escaper}

theorem render_append (parts more : List Part) :
    render escape (parts ++ more) = render escape parts ++ render escape more := by
  induction parts with
  | nil => exact String.empty_append.symm
  | cons part parts ih => rw [List.cons_append, render, ih, render, String.append_assoc]

theorem names_append (parts more : List Part) :
    names (parts ++ more) = names parts ++ names more := by
  fun_induction names parts with
  | case1 => rfl
  | case2 s parts ih => exact ih
  | case3 s parts ih => exact congrArg (s :: ·) ih

theorem Delimited.append {parts more : List Part} (h : Delimited parts) (hmore : Delimited more) :
    Delimited (parts ++ more) := by
  induction h with
  | nil => exact hmore
  | text s _ ih => exact ih.text s
  | name s hbehind hc _ ih => exact ih.name s hbehind hc

theorem Delimited.head?_ne {before after : List Part} {s : String}
    (h : Delimited (before ++ .name s :: after)) :
    (render escape after).toList.head? ≠ some '\x60' := by
  generalize hparts : before ++ .name s :: after = parts at h
  induction h generalizing before with
  | nil => simp at hparts
  | text other _ ih =>
      cases before with
      | nil => cases hparts
      | cons first before => exact ih (List.cons.inj hparts).2
  | name other hbehind hc _ ih =>
      cases before with
      | nil =>
          obtain ⟨-, rfl⟩ := List.cons.inj hparts
          simp [render, Part.sql, hbehind, hc]
      | cons first before =>
          -- A name and the text behind it go together, so the part looked at is further on.
          obtain ⟨-, hparts⟩ := List.cons.inj hparts
          cases before with
          | nil => cases hparts
          | cons second before => exact ih (List.cons.inj hparts).2

/-! ## The parts of a table -/

def joinedParts : List (List Part) → List Part
  | [] => []
  | [clause] => clause
  | clause :: rest => clause ++ .text ", " :: joinedParts rest

def columnParts (escape : Escaper) (primaryKey : Option String) (entry : String × Column) :
    List Part :=
  [.name entry.1,
   .text (" " ++ entry.2.type.getD "" ++ textIf entry.2.unique " UNIQUE"
    ++ entry.2.nullClause (primaryKey == some entry.1) ++ entry.2.defaultClause escape
    ++ textIf entry.2.autoIncrement " AUTO_INCREMENT")]

/-- The clause of a primary key in parts. The name of its constraint is not quoted. -/
def primaryKeyParts (escape : Escaper) (column : String) : List Part :=
  [.text ("CONSTRAINT " ++ escape column ++ " PRIMARY KEY ("), .name column, .text ")"]

/-- The clauses of a table in parts. A foreign key has no quoted name. -/
def clauseParts (escape : Escaper) (name : String) (t : Table) : List (List Part) :=
  t.columns.map (columnParts escape t.primaryKey)
    ++ (t.primaryKey.map (primaryKeyParts escape)).toList
    ++ (t.columns.filterMap columnKey).map fun k => [.text (k.clause escape name)]

def statementParts (escape : Escaper) (name : String) (t : Table) : List Part :=
  [.text "CREATE TABLE IF NOT EXISTS ", .name name, .text " ("]
    ++ joinedParts (clauseParts escape name t) ++ [.text ");"]

theorem render_joinedParts (clauses : List (List Part)) :
    render escape (joinedParts clauses) = joined ", " (clauses.map (render escape)) := by
  fun_induction joinedParts clauses with
  | case1 => rfl
  | case2 clause => rfl
  | case3 clause rest hrest ih =>
      cases rest with
      | nil => exact absurd rfl hrest
      | cons next rest => simp [render_append, render, Part.sql, ih, joined, String.append_assoc]

theorem Delimited.joinedParts {clauses : List (List Part)}
    (h : ∀ clause ∈ clauses, Delimited clause) : Delimited (joinedParts clauses) := by
  fun_induction Identifier.joinedParts clauses with
  | case1 => exact .nil
  | case2 clause => exact h clause List.mem_cons_self
  | case3 clause rest _ ih =>
      obtain ⟨hclause, hrest⟩ := List.forall_mem_cons.mp h
      exact hclause.append ((ih hrest).text ", ")

theorem names_joinedParts (clauses : List (List Part)) :
    names (joinedParts clauses) = clauses.flatMap names := by
  fun_induction joinedParts clauses with
  | case1 => rfl
  | case2 clause => simp
  | case3 clause rest _ ih => rw [names_append, names, ih, List.flatMap_cons]

theorem render_columnParts (primaryKey : Option String) (entry : String × Column) :
    render escape (columnParts escape primaryKey entry) = columnClause escape primaryKey entry := by
  unfold columnClause Column.clause
  apply String.toList_inj.mp
  simp [columnParts, render, Part.sql]

theorem render_primaryKeyParts (column : String) :
    render escape (primaryKeyParts escape column) = primaryKeyClause escape column := by
  unfold primaryKeyClause
  apply String.toList_inj.mp
  simp [primaryKeyParts, render, Part.sql]

section Table

variable (name : String) (t : Table)

theorem render_statementParts :
    render escape (statementParts escape name t) =
      createStatement escape name (t.clauseList escape name) := by
  have hclauses : (clauseParts escape name t).map (render escape) = t.clauseList escape name := by
    simp [clauseParts, Table.clauseList, ← Option.toList_map, Function.comp_def,
      render_columnParts, render_primaryKeyParts, render, Part.sql]
  unfold createStatement
  apply String.toList_inj.mp
  simp [statementParts, render_append, render, Part.sql, render_joinedParts, hclauses]

theorem delimited_statementParts : Delimited (statementParts escape name t) := by
  have hclauses : ∀ clause ∈ clauseParts escape name t, Delimited clause := by
    intro clause hclause
    simp only [clauseParts, List.mem_append, List.mem_map, Option.mem_toList,
      Option.map_eq_some_iff] at hclause
    rcases hclause with (⟨entry, -, rfl⟩ | ⟨key, -, rfl⟩) | ⟨k, -, rfl⟩
    · exact .name _ (by simp) (by decide : ' ' ≠ '\x60') .nil
    · exact .text _ (.name _ rfl (by decide : ')' ≠ '\x60') .nil)
    · exact .text _ .nil
  have hhead : Delimited [.text "CREATE TABLE IF NOT EXISTS ", .name name, .text " ("] :=
    .text _ (.name _ rfl (by decide : ' ' ≠ '\x60') .nil)
  exact (hhead.append (Delimited.joinedParts hclauses)).append (.text _ .nil)

/-- The names that a statement quotes: its table, each column, and the primary key. -/
theorem names_statementParts :
    names (statementParts escape name t) =
      name :: (Keyed.names t.columns ++ t.primaryKey.toList) := by
  have hcolumns : (t.columns.map (columnParts escape t.primaryKey)).flatMap names =
      Keyed.names t.columns := by
    rw [List.flatMap_map, Keyed.names, List.map_eq_flatMap]
    rfl
  have hprimary : (t.primaryKey.map (primaryKeyParts escape)).toList.flatMap names =
      t.primaryKey.toList := by
    cases t.primaryKey <;> simp [primaryKeyParts, names]
  have hkeys : ((t.columns.filterMap columnKey).map
      fun k => [Part.text (k.clause escape name)]).flatMap names = [] := by
    simp [List.flatMap_map, names]
  simp [statementParts, names_append, names, names_joinedParts, clauseParts, hcolumns, hprimary,
    hkeys]

end Table

/-! ## The names of a statement -/

/-- A statement quotes the name of its table, of each column and of its primary key. A name that it
quotes is read as itself, up to its own closing backtick, just when it has neither a backtick nor a
character that the rule for literals changes. Without a backtick it still ends where it should, and
is read as that rule writes it. -/
theorem compile_names {b : Backend} {r : Registry} {name : String} {t : Table} {ddl : String}
    (hget : r.get name = .ok t) (h : r.compile b.escape name = .ok ddl) :
    names (statementParts b.escape name t) =
        name :: (Keyed.names t.columns ++ t.primaryKey.toList) ∧
      ∀ before s after, statementParts b.escape name t = before ++ .name s :: after →
        let behind := (render b.escape after).toList
        let quoted := (b.escape s).toList ++ '\x60' :: behind
        ddl.toList = (render b.escape before).toList ++ '\x60' :: quoted ∧
          (readName quoted = some (s.toList, behind) ↔
            ∀ c ∈ s.toList, c ≠ '\x60' ∧ c ∉ b.altered) ∧
          ('\x60' ∉ s.toList → readName quoted = some ((b.escape s).toList, behind)) := by
  obtain ⟨found, clauses, hfound, -, hclauses, rfl⟩ := Registry.compile_eq_ok_iff.mp h
  obtain rfl : t = found := Except.ok.inj (hget.symm.trans hfound)
  obtain ⟨-, rfl⟩ := Table.clauses_eq_ok hclauses
  refine ⟨names_statementParts name t, fun before s after hparts => ?_⟩
  have hbehind : (render b.escape after).toList.head? ≠ some '\x60' :=
    Delimited.head?_ne (hparts ▸ delimited_statementParts name t)
  refine ⟨?_, readName_escape_iff b s hbehind, readName_escape_of_notMem b s hbehind⟩
  rw [← render_statementParts, hparts, render_append]
  simp [render, Part.sql]

/-- A name of words is read as itself; the quote in another is doubled, and is read so. -/
theorem compile_names_clock :
    let t : Table := ⟨[("o'clock", { type := some "TIME" })], none⟩
    let r : Registry := ⟨[("night shift", t)]⟩
    ∃ ddl first second, r.compile Backend.sqlite.escape "night shift" = .ok ddl ∧
      ddl.toList = "CREATE TABLE IF NOT EXISTS `".toList ++ first ∧
      readName first = some ("night shift".toList, " (`o''clock` TIME NULL);".toList) ∧
      ddl.toList = "CREATE TABLE IF NOT EXISTS `night shift` (`".toList ++ second ∧
      readName second = some ("o''clock".toList, " TIME NULL);".toList) := by
  intro t r
  have hcompile : r.compile Backend.sqlite.escape "night shift" =
      .ok (createStatement Backend.sqlite.escape "night shift"
        (t.clauseList Backend.sqlite.escape "night shift")) :=
    Registry.compile_eq_ok_iff.mpr ⟨t, _, rfl, rfl, rfl, rfl⟩
  obtain ⟨-, hparts⟩ := compile_names rfl hcompile
  obtain ⟨hfirst, hplain, -⟩ := hparts [.text "CREATE TABLE IF NOT EXISTS "] "night shift" _ rfl
  obtain ⟨hsecond, -, hescaped⟩ := hparts
    [.text "CREATE TABLE IF NOT EXISTS ", .name "night shift", .text " ("] "o'clock" _ rfl
  refine ⟨_, _, _, hcompile, hfirst.trans ?_, (hplain.mpr (by simp [Backend.altered])).trans ?_,
    hsecond.trans ?_, (hescaped (by decide)).trans ?_⟩
  all_goals decide +kernel

/-- Names that are not read as themselves: a backtick ends its name early on both backends, a
backslash is doubled on MySQL, and a quote gets a second character on both. -/
theorem compile_names_misread :
    let t : Table := ⟨[("id", { type := some "INT" })], none⟩
    let statement (b : Backend) (name : String) := Registry.compile b.escape ⟨[(name, t)]⟩ name
    let read (ddl : String) := readName (ddl.toList.drop "CREATE TABLE IF NOT EXISTS `".length)
    let behind := " (`id` INT NULL);"
    (∀ b, ∃ ddl, statement b "a`b" = .ok ddl ∧
        read ddl = some (['a'], ("b`" ++ behind).toList)) ∧
      (∃ ddl, statement .mySql "a\\b" = .ok ddl ∧
        read ddl = some ("a\\\\b".toList, behind.toList)) ∧
      (∃ ddl, statement .mySql "it's" = .ok ddl ∧
        read ddl = some ("it\\'s".toList, behind.toList)) ∧
      ∃ ddl, statement .sqlite "it's" = .ok ddl ∧
        read ddl = some ("it''s".toList, behind.toList) := by
  intro t statement read behind
  have hstatement : ∀ (b : Backend) (name : String), statement b name =
      .ok (createStatement b.escape name (t.clauseList b.escape name)) := by
    intro b name
    have hget : Registry.get ⟨[(name, t)]⟩ name = .ok t := by
      simp [Registry.get, Keyed.get?]
    exact Registry.compile_eq_ok_iff.mpr ⟨_, _, hget, rfl, rfl, rfl⟩
  refine ⟨fun b => ⟨_, hstatement b _, ?_⟩, ⟨_, hstatement _ _, ?_⟩, ⟨_, hstatement _ _, ?_⟩,
    _, hstatement _ _, ?_⟩
  · cases b <;> decide +kernel
  all_goals decide +kernel

end SqlSchema.Identifier
