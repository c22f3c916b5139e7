import SqlSchema.Proofs.Ddl.Clauses
import SqlSchema.Proofs.Literal.RoundTrip
import SqlSchema.Proofs.Number.Digits

/-! # The constraints of a column read back

What follows the type in the clause of a column is a row of words of which each may be left out,
with the literal of a default among them. It is read back word by word: no text of a default can be
taken for a word behind it, and no word for another one. -/

namespace SqlSchema.Schema

open SqlSchema.Literal SqlSchema.Number SqlSchema.Scan SqlSchema.Text

/-! ## Words that may be left out -/

/-- Whether a text starts with a word, and what follows the word if it does. -/
def readWord (word : String) (cs : List Char) : Bool × List Char :=
  match after? word.toList cs with
  | some rest => (true, rest)
  | none => (false, cs)

/-- Words of which neither is the start of the other. -/
def Differ (word other : String) : Prop :=
  ¬word.toList <+: other.toList ∧ ¬other.toList <+: word.toList

instance (word other : String) : Decidable (Differ word other) :=
  inferInstanceAs (Decidable (_ ∧ _))

section Words

variable {word other : String} {cs : List Char}

theorem Differ.not_prefix_append (h : Differ word other) : ¬word.toList <+: other.toList ++ cs := by
  intro hword
  rcases List.prefix_or_prefix_of_prefix hword (List.prefix_append other.toList cs) with hpre | hpre
  · exact h.1 hpre
  · exact h.2 hpre

/-- A word does not start a text in which another one may be left out in front. -/
theorem Differ.not_prefix_textIf (h : Differ word other) (hcs : ¬word.toList <+: cs)
    (condition : Bool) : ¬word.toList <+: (textIf condition other).toList ++ cs := by
  cases condition with
  | false => exact hcs
  | true => exact h.not_prefix_append

/-- A word that may be left out is found just if it is there. -/
theorem readWord_textIf (h : ¬word.toList <+: cs) (condition : Bool) :
    readWord word ((textIf condition word).toList ++ cs) = (condition, cs) := by
  cases condition with
  | false =>
      have hnone : after? word.toList cs = none := by
        rw [after?, if_neg (by simpa using h)]
      have htext : (textIf false word).toList ++ cs = cs := rfl
      rw [htext, readWord, hnone]
  | true =>
      have htext : textIf true word = word := rfl
      rw [htext, readWord, after?_append]

theorem readWord_textIf_end (h : ¬word.toList <+: []) (condition : Bool) :
    readWord word (textIf condition word).toList = (condition, []) := by
  have hread := readWord_textIf h condition
  rwa [List.append_nil] at hread

end Words

/-! ## Literals of defaults -/

/-- The default that a word spells: a truth value, or a whole number. -/
def defaultOfWord (word : List Char) : DefaultValue :=
  if word = "true".toList then .bool true
  else if word = "false".toList then .bool false
  else
    let (negative, digits) := takeSign word
    let n : Int := digitsValue 0 digits
    .integer (.ofInt (if negative then -n else n))

/-- The default whose literal a text starts with, and what follows the literal. A literal that is
not quoted ends before the first space. -/
def readDefault (b : Backend) : List Char → Option (DefaultValue × List Char)
  | '\x27' :: rest => (readQuoted b rest).map fun read => (.text (String.ofList read.1), read.2)
  | cs => some (defaultOfWord (cs.takeWhile (· != ' ')), cs.dropWhile (· != ' '))

/-- What cannot prolong a literal: nothing, or a text that starts with a space. -/
def EndsLiteral (rest : List Char) : Prop :=
  ∀ c ∈ rest.head?, c = ' '

theorem endsLiteral_textIf {word : String} (h : EndsLiteral word.toList) (condition : Bool) :
    EndsLiteral (textIf condition word).toList := by
  cases condition with
  | false => rintro c ⟨⟩
  | true => exact h

theorem readDefault_word (b : Backend) {word rest : List Char}
    (hword : ∀ c ∈ word, c ≠ ' ' ∧ c ≠ '\x27') (hrest : EndsLiteral rest) :
    readDefault b (word ++ rest) = some (defaultOfWord word, rest) := by
  have hspace : ∀ c ∈ word, (c != ' ') = true := fun c hc => by simpa using (hword c hc).1
  have htake : rest.takeWhile (· != ' ') = [] := by
    cases rest with
    | nil => rfl
    | cons c rest => rw [List.takeWhile_cons_of_neg (by simp [hrest c rfl])]
  have hdrop : rest.dropWhile (· != ' ') = rest := by
    cases rest with
    | nil => rfl
    | cons c rest => rw [List.dropWhile_cons_of_neg (by simp [hrest c rfl])]
  unfold readDefault
  split
  next tail heq =>
    cases word with
    | nil => exact absurd (hrest '\x27' (by rw [← List.nil_append rest, heq]; rfl)) (by decide)
    | cons c word => exact absurd (List.cons.inj heq).1 (hword c List.mem_cons_self).2
  next =>
    rw [List.takeWhile_append_of_pos hspace, List.dropWhile_append_of_pos hspace, htake, hdrop,
      List.append_nil]

theorem takeSign_toString_int (n : Int) :
    takeSign (toString n).toList = (decide (n < 0), Nat.toDigits 10 n.natAbs) := by
  rw [toList_toString_int]
  split
  next hsign => rw [takeSign, decide_eq_true hsign]
  next hsign =>
    obtain ⟨c, cs, hdigits, hc⟩ := exists_toDigits_eq_cons n.natAbs
    rw [hdigits, takeSign_of_isDigit hc, decide_eq_false hsign]

theorem defaultOfWord_toString (n : Int64) :
    defaultOfWord (toString n.toInt).toList = .integer n := by
  have hletter : 'e' ∉ (toString n.toInt).toList := by
    intro h
    rcases isDigit_or_eq_minus_of_mem_toString h with hdigit | hminus
    · exact absurd hdigit (by decide)
    · exact absurd hminus (by decide)
  have htrue : (toString n.toInt).toList ≠ "true".toList := fun h => hletter (by rw [h]; decide)
  have hfalse : (toString n.toInt).toList ≠ "false".toList := fun h => hletter (by rw [h]; decide)
  have hvalue : (if decide (n.toInt < 0) = true then -(n.toInt.natAbs : Int) else n.toInt.natAbs) =
      n.toInt := by
    simp only [decide_eq_true_eq]
    split <;> omega
  rw [defaultOfWord, if_neg htrue, if_neg hfalse, takeSign_toString_int]
  dsimp only
  rw [digitsValue_toDigits, hvalue, Int64.ofInt_toInt]

theorem readDefault_sql (b : Backend) {d : DefaultValue} (h : IsLiteral d) {rest : List Char}
    (hrest : EndsLiteral rest) :
    readDefault b ((d.sql b.escape).toList ++ rest) = some (d, rest) := by
  cases d with
  | bool value =>
      cases value with
      | false =>
          have hword : ∀ c ∈ "false".toList, c ≠ ' ' ∧ c ≠ '\x27' := by simp
          exact readDefault_word b hword hrest
      | true =>
          have hword : ∀ c ∈ "true".toList, c ≠ ' ' ∧ c ≠ '\x27' := by simp
          exact readDefault_word b hword hrest
  | integer n =>
      have hword : ∀ c ∈ (toString n.toInt).toList, c ≠ ' ' ∧ c ≠ '\x27' := by
        intro c hc
        rcases isDigit_or_eq_minus_of_mem_toString hc with hdigit | rfl
        · exact ⟨ne_of_isDigit hdigit (by decide), ne_of_isDigit hdigit (by decide)⟩
        · decide
      rw [DefaultValue.sql, readDefault_word b hword hrest, defaultOfWord_toString]
  | text s =>
      have hquote : rest.head? ≠ some '\x27' := fun hhead => absurd (hrest _ hhead) (by decide)
      have htext : (DefaultValue.sql b.escape (.text s)).toList ++ rest =
          '\x27' :: (s.toList.flatMap b.escapeChar ++ '\x27' :: rest) := by
        simp [DefaultValue.sql, Backend.escape]
      rw [htext, readDefault, readQuoted_escape b s.toList hquote, Option.map_some,
        String.ofList_toList]
  | float x => cases h
  | expression sql => cases h

/-! ## Clauses -/

/-- What the clause of a column says of it behind its type. -/
structure Constraints where
  unique : Bool
  nullable : Bool
  default : Option DefaultValue
  autoIncrement : Bool
  deriving DecidableEq

namespace Column

def constraints (c : Column) : Constraints :=
  ⟨c.unique, c.nullable, c.default, c.autoIncrement⟩

def constraintsText (escape : Escaper) (c : Column) (isPrimaryKey : Bool) : String :=
  textIf c.unique " UNIQUE" ++ c.nullClause isPrimaryKey ++ c.defaultClause escape
    ++ textIf c.autoIncrement " AUTO_INCREMENT"

end Column

/-- The default clause that a text starts with, if it does, and what follows it. -/
def readDefaultClause (b : Backend) (cs : List Char) : Option (Option DefaultValue × List Char) :=
  match after? " DEFAULT ".toList cs with
  | some rest => (readDefault b rest).map fun read => (some read.1, read.2)
  | none => some (none, cs)

/-- The constraints that a text behind the type of a column spells, if it spells nothing else. -/
def readConstraints (b : Backend) (cs : List Char) : Option Constraints := do
  let (unique, cs) := readWord " UNIQUE" cs
  let (notNull, cs) := readWord " NOT NULL" cs
  let (_, cs) := readWord " NULL" cs
  let (default, cs) ← readDefaultClause b cs
  let (autoIncrement, cs) := readWord " AUTO_INCREMENT" cs
  if cs.isEmpty then some ⟨unique, !notNull, default, autoIncrement⟩ else none

theorem Column.nullClause_eq (c : Column) (isPrimaryKey : Bool) :
    c.nullClause isPrimaryKey =
      textIf (!c.nullable) " NOT NULL" ++ textIf (c.nullable && !isPrimaryKey) " NULL" := by
  rw [Column.nullClause]
  cases c.nullable <;> rfl

theorem Column.defaultClause_none {c : Column} (h : c.default = none) (escape : Escaper) :
    c.defaultClause escape = "" := by
  rw [Column.defaultClause, h]

theorem Column.defaultClause_some {c : Column} {default : DefaultValue}
    (h : c.default = some default) (escape : Escaper) :
    c.defaultClause escape = " DEFAULT " ++ default.sql escape := by
  rw [Column.defaultClause, h]

theorem readDefaultClause_defaultClause (b : Backend) {c : Column}
    (h : ∀ default ∈ c.default, IsLiteral default) {rest : List Char} (hrest : EndsLiteral rest)
    (hword : ¬" DEFAULT ".toList <+: rest) :
    readDefaultClause b ((c.defaultClause b.escape).toList ++ rest) = some (c.default, rest) := by
  cases hdefault : c.default with
  | none =>
      have hnone : after? " DEFAULT ".toList rest = none := by
        rw [after?, if_neg (by simpa using hword)]
      rw [Column.defaultClause_none hdefault, String.toList_empty, List.nil_append,
        readDefaultClause, hnone]
  | some default =>
      rw [Column.defaultClause_some hdefault, String.toList_append, List.append_assoc,
        readDefaultClause, after?_append]
      dsimp only
      rw [readDefault_sql b (h default hdefault) hrest]
      rfl

theorem not_prefix_defaultClause {word : String} (h : Differ word " DEFAULT ") (escape : Escaper)
    (c : Column) {rest : List Char} (hrest : ¬word.toList <+: rest) :
    ¬word.toList <+: (c.defaultClause escape).toList ++ rest := by
  cases hdefault : c.default with
  | none => rwa [Column.defaultClause_none hdefault]
  | some default =>
      rw [Column.defaultClause_some hdefault, String.toList_append, List.append_assoc]
      exact h.not_prefix_append

theorem readConstraints_constraintsText (b : Backend) {c : Column}
    (h : ∀ default ∈ c.default, IsLiteral default) (isPrimaryKey : Bool) :
    readConstraints b (c.constraintsText b.escape isPrimaryKey).toList = some c.constraints := by
  let afterDefault := (textIf c.autoIncrement " AUTO_INCREMENT").toList
  let afterNull := (c.defaultClause b.escape).toList ++ afterDefault
  let afterNotNull := (textIf (c.nullable && !isPrimaryKey) " NULL").toList ++ afterNull
  let afterUnique := (textIf (!c.nullable) " NOT NULL").toList ++ afterNotNull
  have htext : (c.constraintsText b.escape isPrimaryKey).toList =
      (textIf c.unique " UNIQUE").toList ++ afterUnique := by
    rw [Column.constraintsText, Column.nullClause_eq]
    simp only [String.toList_append, List.append_assoc, afterUnique, afterNotNull, afterNull,
      afterDefault]
  -- Behind its place no word stands again: all that may follow starts otherwise.
  have hend {word : String} (hauto : Differ word " AUTO_INCREMENT") (hne : ¬word.toList <+: []) :
      ¬word.toList <+: afterDefault := by
    have hword := hauto.not_prefix_textIf hne c.autoIncrement
    rwa [List.append_nil] at hword
  have hdefault : ¬" DEFAULT ".toList <+: afterDefault := hend (by decide) (by decide)
  have hnull : ¬" NULL".toList <+: afterNull :=
    not_prefix_defaultClause (by decide) b.escape c (hend (by decide) (by decide))
  have hnotNull : ¬" NOT NULL".toList <+: afterNotNull :=
    Differ.not_prefix_textIf (by decide)
      (not_prefix_defaultClause (by decide) b.escape c (hend (by decide) (by decide))) _
  have hunique : ¬" UNIQUE".toList <+: afterUnique :=
    Differ.not_prefix_textIf (by decide) (Differ.not_prefix_textIf (by decide)
      (not_prefix_defaultClause (by decide) b.escape c (hend (by decide) (by decide))) _) _
  have hauto : ¬" AUTO_INCREMENT".toList <+: [] := by decide
  have hspace : EndsLiteral afterDefault := endsLiteral_textIf (by rintro d ⟨⟩; rfl) _
  rw [htext, readConstraints]
  simp only [readWord_textIf hunique, afterUnique, readWord_textIf hnotNull, afterNotNull,
    readWord_textIf hnull, afterNull, readDefaultClause_defaultClause b h hspace hdefault,
    afterDefault, readWord_textIf_end hauto, Option.bind_eq_bind, Option.bind_some,
    List.isEmpty_nil, if_true, Bool.not_not]
  rfl

namespace Column

theorem clause_eq (escape : Escaper) (name type : String) (c : Column) (isPrimaryKey : Bool) :
    c.clause escape name type isPrimaryKey =
      "`" ++ escape name ++ "` " ++ type ++ c.constraintsText escape isPrimaryKey := by
  simp only [clause, constraintsText, String.append_assoc]

/-- The clause of a column decides its constraints: under one name, type and place in the key two
columns have the same clause just if they agree on uniqueness, nulls, default and numbering. No
default of a text is taken for a truth value or a number that it spells, and no text hides or
imitates a word behind the default. -/
theorem clause_eq_iff_constraints (b : Backend) (name type : String) (isPrimaryKey : Bool)
    {c d : Column} (hc : ∀ default ∈ c.default, IsLiteral default)
    (hd : ∀ default ∈ d.default, IsLiteral default) :
    c.clause b.escape name type isPrimaryKey = d.clause b.escape name type isPrimaryKey ↔
      c.unique = d.unique ∧ c.nullable = d.nullable ∧ c.autoIncrement = d.autoIncrement ∧
        c.default = d.default := by
  rw [clause_eq, clause_eq, String.append_right_inj]
  constructor
  · intro h
    have hread := readConstraints_constraintsText b hc isPrimaryKey
    rw [h, readConstraints_constraintsText b hd isPrimaryKey] at hread
    obtain ⟨hunique, hnullable, hdefault, hauto⟩ :=
      Constraints.mk.inj (Option.some.inj hread).symm
    exact ⟨hunique, hnullable, hauto, hdefault⟩
  · rintro ⟨hunique, hnullable, hauto, hdefault⟩
    simp only [constraintsText, nullClause, defaultClause, hunique, hnullable, hauto, hdefault]

/-- A text that spells the word behind a default, and one that spells a truth value. -/
theorem clause_eq_iff_constraints_imitation :
    let c : Column := { default := some (.text "x' AUTO_INCREMENT") }
    let d : Column := { default := some (.text "x"), autoIncrement := true }
    let e : Column := { default := some (.bool true) }
    let f : Column := { default := some (.text "true") }
    (∀ column ∈ [c, d, e, f], ∀ default ∈ column.default, IsLiteral default) ∧
      c.clause Backend.sqlite.escape "id" "INT" true ≠
        d.clause Backend.sqlite.escape "id" "INT" true ∧
      e.clause Backend.mySql.escape "on" "TEXT" false ≠
        f.clause Backend.mySql.escape "on" "TEXT" false := by
  intro c d e f
  have hliteral : ∀ column ∈ [c, d, e, f], ∀ default ∈ column.default, IsLiteral default := by
    simp [c, d, e, f, IsLiteral]
  refine ⟨hliteral, ?_, ?_⟩
  · rw [Ne, clause_eq_iff_constraints .sqlite "id" "INT" true (hliteral c (by simp))
      (hliteral d (by simp))]
    decide
  · rw [Ne, clause_eq_iff_constraints .mySql "on" "TEXT" false (hliteral e (by simp))
      (hliteral f (by simp))]
    decide

end Column

end SqlSchema.Schema
