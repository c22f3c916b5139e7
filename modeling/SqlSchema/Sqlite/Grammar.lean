import SqlSchema.Sqlite.Grammar.Definition

/-! The grammar of commands. -/

namespace SqlSchema.Sqlite

open SqlSchema.Text

/-! ### Selections -/

/-- A name behind `as`, or without it. -/
def label? : Reading (Option String) := do
  if ← takeKeyword "as" then return some (← name)
  return (← takeIf Token.isNameOrString).map Token.content

/-- All columns under a label, if they come next. -/
def allOf? : Reading (Option Projection) := do
  match ← get with
  | table :: point :: star :: rest =>
    if table.isNameOrString && point.isMark "." && star.isMark "*" then
      set rest
      return some (.allOf table.content)
    else return none
  | _ => return none

def projection : Reading Projection := do
  if ← takeMark "*" then return .all
  if let some p ← allOf? then return p
  let before ← get
  let e ← expression
  let rest ← get
  let written := spanUpTo rest.head? (before.take (before.length - rest.length))
  return .expr e (← label?) written

def orderTerm : Reading OrderTerm := do
  let e ← expression
  return ⟨e, ← direction⟩

def source : Reading (String × Option String) := do
  return (← name, ← label?)

/-- The bounds of a selection: how many rows, and how many before them. -/
def bounds : Reading (Option Expr × Option Expr) := do
  match ← behind ["limit"] expression with
  | none => return (none, none)
  | some first =>
    if ← takeMark "," then return (some (← expression), some first)
    return (some first, ← behind ["offset"] expression)

/-- A selection behind its keyword. -/
def selection : Reading Selection := do
  let distinct ← takeKeyword "distinct"
  if !distinct then let _ ← takeKeyword "all"
  let projections ← commaSeparated projection
  let source ← behind ["from"] source
  let condition ← behind ["where"] expression
  let groups ← behind ["group", "by"] (commaSeparated expression)
  let having ← behind ["having"] expression
  let order ← behind ["order", "by"] (commaSeparated orderTerm)
  let (limit, offset) ← bounds
  return { distinct := distinct, projections := projections, source := source,
           condition := condition, groups := groups.getD [], having := having,
           order := order.getD [], limit := limit, offset := offset }

def query : Reading Query := do
  if ← takeKeyword "values" then
    return .values (← commaSeparated (parenthesized (commaSeparated expression)))
  keywords ["select"]
  return .select (← selection)

/-! ### Statements -/

/-- What a statement asks for in conflicts, if it does. -/
def askedConflict : Reading (Option Conflict) :=
  behind ["or"] (oneOf conflicts)

def insertedRows : Reading (Option Query) := do
  if ← takeKeyword "default" then
    keywords ["values"]
    return none
  return some (← query)

/-- An insertion behind what says how conflicts are handled. -/
def insertion (conflict : Option Conflict) : Reading Action := do
  keywords ["into"]
  let table ← name
  let columns ← listedNames
  return .insert conflict table (if columns.isEmpty then none else some columns) (← insertedRows)

def assignment : Reading (String × Expr) := do
  let column ← name
  mark "="
  return (column, ← expression)

/-- A statement that a list of named selections may precede. -/
def rowAction : Reading Action := do
  if ← takeKeyword "insert" then return ← insertion (← askedConflict)
  if ← takeKeyword "replace" then return ← insertion (some .replace)
  if ← takeKeyword "update" then
    let conflict ← askedConflict
    let table ← name
    keywords ["set"]
    let assignments ← commaSeparated assignment
    return .update conflict table assignments (← behind ["where"] expression)
  if ← takeKeyword "delete" then
    keywords ["from"]
    let table ← name
    return .delete table (← behind ["where"] expression)
  return .query (← query)

def namedQuery : Reading NamedQuery := do
  let own ← name
  let columns ← listedNames
  keywords ["as"]
  return ⟨own, columns, ← parenthesized query⟩

/-- What is assigned to a setting: a number with or without a sign, a name, or one of some
keywords. -/
def settingValue : Reading String := do
  if ← takeMark "-" then
    match ← takeIf Token.isPlainNumber with
    | some t => return "-" ++ t.text
    | none => refuse
  if ← takeMark "+" then
    match ← takeIf Token.isPlainNumber with
    | some t => return t.text
    | none => refuse
  let isWord (t : Token) := ["on", "delete", "default"].any fun word => t.isKeyword word
  match ← takeIf fun t => t.isPlainNumber || t.isNameOrString || isWord t with
  | some t => return t.content
  | none => refuse

def setting : Reading Action := do
  let asked ← name
  if ← takeMark "=" then return .pragma asked (some (← settingValue))
  if ← comesNext (Token.isMark "(") then
    return .pragma asked (some (← parenthesized settingValue))
  return .pragma asked none

def command : Reading Command := do
  if ← takeKeyword "with" then
    let named ← commaSeparated namedQuery
    return { named := named, action := ← rowAction }
  if ← takeKeyword "create" then
    keywords ["table"]
    return { action := ← createTable }
  if ← takeKeyword "drop" then
    keywords ["table"]
    let ifPresent ← takeIfClause ["exists"]
    return { action := .dropTable ifPresent (← name) }
  if ← takeKeyword "pragma" then return { action := ← setting }
  return { action := ← rowAction }

/-- Whether a token ends a text. -/
def Token.isFinish (t : Token) : Bool :=
  t.kind = .finish

/-- The end of a statement: a semicolon, or the end of the text. -/
def statementEnd : Reading Unit := do
  if !(← comesNext Token.isFinish) then mark ";"

def wholeCommand : Reading Command := do
  let c ← command
  statementEnd
  return c

/-- The first statement of some tokens, its own tokens, and those behind it; there may be none. -/
def readCommand (tokens : List Token) :
    Except Fault (Option (Command × List Token × List Token)) := do
  let tokens := tokens.dropWhile (Token.isMark ";")
  if tokens.all Token.isFinish then return none
  let (c, rest) ← wholeCommand.run tokens
  return some (c, tokens.take (tokens.length - rest.length), rest)

end SqlSchema.Sqlite
