import SqlSchema.Sqlite.Grammar.Expression

/-! The grammar of table definitions. -/

namespace SqlSchema.Sqlite

open SqlSchema.Schema SqlSchema.Text

/-! ### Clauses -/

def conflicts : List (String × Conflict) :=
  [("rollback", .rollback), ("abort", .abort), ("fail", .fail), ("ignore", .ignore),
   ("replace", .replace)]

/-- What a constraint says about rows that break it, if it says something. -/
def conflictClause : Reading (Option Conflict) :=
  behind ["on", "conflict"] (oneOf conflicts)

def direction : Reading Bool := do
  if ← takeKeyword "desc" then return true
  let _ ← takeKeyword "asc"
  return false

/-- The column that an expression names, for which a string also stands. -/
def keyColumn? : Expr → Option String
  | .column none name _ => some name
  | .literal (.text name) => some name
  | .collated e _ => keyColumn? e
  | _ => none

/-- A column of a key, with or without a direction. -/
def keyColumn : Reading String := do
  let e ← expression
  let _ ← direction
  match keyColumn? e with
  | some column => return column
  | none => throw .keyExpression

def referentialAction : Reading ReferentialAction := do
  if ← takeKeyword "set" then return ← oneOf [("null", .setNull), ("default", .setDefault)]
  if ← takeKeyword "no" then
    keywords ["action"]
    return .noAction
  oneOf [("cascade", .cascade), ("restrict", .restrict)]

/-- The actions of a reference; the fuel bounds their number. -/
def referentialActions : Nat → Reference → Reading Reference
  | 0, r => return r
  | fuel + 1, r => do
    if ← takeKeyword "match" then
      let _ ← name
      return ← referentialActions fuel r
    if ← takeKeyword "on" then
      if ← takeKeyword "delete" then
        return ← referentialActions fuel { r with onDelete := ← referentialAction }
      if ← takeKeyword "update" then
        return ← referentialActions fuel { r with onUpdate := ← referentialAction }
      keywords ["insert"]
      let _ ← referentialAction
      return ← referentialActions fuel r
    return r

/-- Whether a reference is deferred, if something is said about it. -/
def deferral? : Reading (Option Bool) := do
  let initially : Reading Bool := do
    return (← behind ["initially"] (oneOf [("deferred", true), ("immediate", false)])) == some true
  match ← get with
  | first :: second :: rest =>
    if first.isKeyword "deferrable" then
      set (second :: rest)
      return some (← initially)
    else if first.isKeyword "not" && second.isKeyword "deferrable" then
      set rest
      let _ ← initially
      return some false
    else return none
  | _ => return none

/-- A reference of some columns to a table, behind its keyword. -/
def reference (columns : List String) : Reading Reference := do
  let table ← name
  let targets ← listedNames
  referentialActions (← get).length { columns := columns, table := table, targets := targets }

/-! ### Columns -/

/-- The default that a name stands for: a truth value, or its own text. -/
def namedDefault (name : String) : Expr :=
  match lowerAscii name with
  | "true" => .literal (.integer 1)
  | "false" => .literal (.integer 0)
  | _ => .literal (.text name)

def literal : Reading Expr := do
  match ← literal? with
  | some e => return e
  | none => refuse

def defaultValue : Reading Expr := do
  if let some e ← literal? then return e
  if ← takeMark "-" then
    if let some e ← number? true then return e
    return .opposite (← literal)
  if ← takeMark "+" then return ← literal
  if ← comesNext (Token.isMark "(") then return ← parenthesized expression
  match ← takeIf Token.isName with
  | some t => return namedDefault t.content
  | none => refuse

/-- A column that is being read, the constraints that it puts on the table, and the name that was
given last, by which a condition goes. -/
structure ColumnDraft where
  column : ColumnDefinition
  constraints : List TableConstraint := []
  title : Option String := none

/-- A column with one more constraint on the table. -/
def ColumnDraft.constrain (d : ColumnDraft) (c : TableConstraint) : ColumnDraft :=
  { d with constraints := d.constraints ++ [c] }

def ColumnDraft.primaryKey (d : ColumnDraft) : Reading ColumnDraft := do
  let descending ← direction
  let conflict ← conflictClause
  let counting ← takeKeyword "autoincrement"
  return d.constrain (.primaryKey [d.column.name] conflict descending counting)

/-- A reference behind its keyword, to no more than one column. -/
def ColumnDraft.reference (d : ColumnDraft) : Reading ColumnDraft := do
  let r ← Sqlite.reference [d.column.name]
  if 1 < r.targets.length then throw (.columnReferenceWidth d.column.name r.table)
  return d.constrain (.reference r)

/-- The column with its last reference deferred, or not. -/
def ColumnDraft.defer (d : ColumnDraft) (deferred : Bool) : ColumnDraft :=
  match d.constraints.getLast? with
  | some (.reference r) =>
    { d with constraints := d.constraints.dropLast ++ [.reference { r with deferred := deferred }] }
  | _ => d

/-- The expression of a generated column behind its keyword, and whether its values are kept, which
makes no difference. -/
def generation : Reading Expr := do
  let e ← parenthesized expression
  if !(← takeKeyword "stored") then let _ ← takeKeyword "virtual"
  return e

/-- The column with one more constraint, if one comes next. -/
def ColumnDraft.next? (d : ColumnDraft) : Reading (Option ColumnDraft) := do
  if ← takeKeyword "constraint" then return some { d with title := some (← name) }
  if ← takeKeyword "default" then
    return some { d with column := { d.column with default := some (← defaultValue) } }
  if ← takeKeyword "null" then
    let _ ← conflictClause
    return some d
  if let some deferred ← deferral? then return some (d.defer deferred)
  if ← takeKeyword "not" then
    keywords ["null"]
    let conflict ← conflictClause
    return some { d with column := { d.column with notNull := some (conflict.getD .abort) } }
  if ← takeKeyword "primary" then
    keywords ["key"]
    return some (← d.primaryKey)
  if ← takeKeyword "unique" then
    return some (d.constrain (.unique [d.column.name] (← conflictClause)))
  if ← takeKeyword "check" then
    let (e, written) ← quotedCondition
    return some (d.constrain (.check (d.title.getD written) e))
  if ← takeKeyword "references" then return some (← d.reference)
  if ← takeKeyword "collate" then
    return some { d with column := { d.column with collation := ← collationName } }
  if ← takeKeyword "generated" then
    keywords ["always", "as"]
    return some { d with column := { d.column with generated := some (← generation) } }
  if ← takeKeyword "as" then
    return some { d with column := { d.column with generated := some (← generation) } }
  return none

/-- The column with all its constraints; the fuel bounds their number. -/
def ColumnDraft.complete : Nat → ColumnDraft → Reading ColumnDraft
  | 0, d => return d
  | fuel + 1, d => do
    match ← d.next? with
    | some d => d.complete fuel
    | none => return d

/-- A type without the words that announce a generated column, which belong to its names. -/
def plainType (declared : String) : String :=
  let without (word : String) (s : String) : String :=
    if 16 ≤ declared.utf8ByteSize && (lowerAscii s).endsWith word then
      String.ofList ((s.toList.take (s.length - word.length)).reverse.dropWhile isGapChar).reverse
    else s
  let shortened := without "always" declared
  if shortened == declared then declared else without "generated" shortened

def columnDefinition : Reading ColumnDraft := do
  let column ← name
  let declared ← declaredType
  ColumnDraft.complete ((← get).length + 1)
    { column := { name := column, declared := plainType declared } }

/-! ### Tables -/

/-- Whether a constraint on the table comes next. -/
def atTableConstraint : Reading Bool :=
  comesNext fun t =>
    ["constraint", "primary", "unique", "check", "foreign"].any fun word => t.isKeyword word

/-- The columns of a key in parentheses, and whether the key counts. -/
def keyColumns : Reading (List String × Bool) :=
  parenthesized do
    let columns ← commaSeparated keyColumn
    return (columns, ← takeKeyword "autoincrement")

def tableConstraint (title : Option String) : Reading TableConstraint := do
  if ← takeKeyword "primary" then
    keywords ["key"]
    let (columns, counting) ← keyColumns
    return .primaryKey columns (← conflictClause) false counting
  if ← takeKeyword "unique" then
    let columns ← parenthesized (commaSeparated keyColumn)
    return .unique columns (← conflictClause)
  if ← takeKeyword "check" then
    let (e, written) ← quotedCondition
    let _ ← conflictClause
    return .check (title.getD written) e
  keywords ["foreign", "key"]
  let columns ← parenthesized (commaSeparated name)
  keywords ["references"]
  let r ← reference columns
  return .reference { r with deferred := (← deferral?).getD false }

/-- The constraints on the table, with commas between them or without; the fuel bounds their number.
A comma ends what a name was given to. -/
def tableConstraints : Nat → Option String → Reading (List TableConstraint)
  | 0, _ => refuse
  | fuel + 1, title => do
    let following (title : Option String) : Reading (List TableConstraint) := do
      if ← takeMark "," then return ← tableConstraints fuel none
      if ← atTableConstraint then return ← tableConstraints fuel title
      return []
    if ← takeKeyword "constraint" then
      let own ← name
      return ← following (some own)
    let first ← tableConstraint title
    return first :: (← following title)

/-- The columns and constraints of a table; the fuel bounds their number. -/
def tableBody : Nat → Reading (List ColumnDefinition × List TableConstraint)
  | 0 => refuse
  | fuel + 1 => do
    let d ← columnDefinition
    if ← takeMark "," then
      if ← atTableConstraint then
        return ([d.column], d.constraints ++ (← tableConstraints ((← get).length + 1) d.title))
      let (columns, constraints) ← tableBody fuel
      return (d.column :: columns, d.constraints ++ constraints)
    return ([d.column], d.constraints)

/-- Whether `if` and some words come next, which are then taken. -/
def takeIfClause (words : List String) : Reading Bool := do
  if ← takeKeyword "if" then
    keywords words
    return true
  return false

def createTable : Reading Action := do
  let ifAbsent ← takeIfClause ["not", "exists"]
  let table ← name
  mark "("
  let (columns, constraints) ← tableBody ((← get).length + 1)
  mark ")"
  return .createTable ifAbsent table columns constraints

end SqlSchema.Sqlite
