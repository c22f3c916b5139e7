import SqlSchema.Sqlite.Database
import SqlSchema.Sqlite.Scan

/-! Selections: the relations that queries give. -/

namespace SqlSchema.Sqlite

/-- The counters of a connection: the rows that the last change affected, and the number of the row
that was inserted last, whichever statement did so. -/
structure Counters where
  changes : Nat := 0
  lastRowId : Int64 := 0
  deriving Repr, DecidableEq

/-- Columns in reach and rows of them, and the table whose rows they are, if they are. -/
structure Relation where
  columns : List ScopeColumn
  rows : List (List Stored)
  table : Option Table := none
  deriving Repr

/-- What selections draw on: named selections, tables, and the counters. -/
structure Sources where
  named : List (String × Relation) := []
  database : Database
  counters : Counters

namespace Sources

def relation (s : Sources) (name : String) (label : Option String) : Except Fault Relation := do
  let label := label.getD name
  match s.named.find? fun entry => sameName entry.1 name with
  | some entry =>
    return { entry.2 with columns := entry.2.columns.map fun c => { c with table := label } }
  | none =>
    let t ← s.database.table name
    return { columns := t.scopeColumns label, rows := t.rows.map Table.visible, table := some t }

def scope (s : Sources) (columns : List ScopeColumn) : Scope :=
  { columns := columns, changes := s.counters.changes, lastRowId := s.counters.lastRowId }

end Sources

/-! ### Columns of results -/

/-- A column of a result: its expression, its name, its declared type, and the label that it was
given. -/
structure ResultColumn where
  expr : Expr
  name : String
  declared : String := ""
  label : Option String := none

/-- The column of a result that an expression gives. A column keeps its own name and type. -/
def resultColumn (columns : List ScopeColumn) (e : Expr) (label : Option String)
    (written : String) : ResultColumn :=
  let found? := match e with
    | .column table name _ => (resolve? columns table name).map Prod.fst
    | _ => none
  match found? with
  | some c =>
    { expr := e, name := label.getD c.name, declared := c.declared, label := label }
  | none => { expr := e, name := label.getD written, label := label }

def wholeColumns (columns : List ScopeColumn) : List ResultColumn :=
  (columns.filter fun c => !c.hidden).map fun c =>
    { expr := .column (some c.table) c.name false, name := c.name, declared := c.declared }

def Projection.columns (columns : List ScopeColumn) :
    Projection → Except Fault (List ResultColumn)
  | .all => if columns.isEmpty then .error .noSource else .ok (wholeColumns columns)
  | .allOf table =>
    let own := columns.filter fun c => sameName c.table table
    if own.isEmpty then .error (.noTable table) else .ok (wholeColumns own)
  | .expr e label written => .ok [resultColumn columns e label written]

/-- The number by which a term counts out a column of the result, as far as it has 32 bits. -/
def countedColumn? : Expr → Option Int
  | .literal (.integer n) =>
    if -2147483648 < n.toInt ∧ n.toInt < 2147483648 then some n.toInt else none
  | _ => none

/-- The column of a result of a label. -/
def labelled? (results : List ResultColumn) (e : Expr) : Option Expr :=
  match e with
  | .column none name _ =>
    (results.find? fun c => c.label.any (sameName name)).map ResultColumn.expr
  | _ => none

/-- The expression of a term of an order or of groups: a column of the result that it counts out or
that another way of naming finds, or the term itself. -/
def termExpr (clause : String) (results : List ResultColumn) (named? : Expr → Option Expr)
    (term : Expr × Nat) : Except Fault Expr :=
  let (collated, e) := match term.1 with
    | .collated e collation => ((Expr.collated · collation), e)
    | e => (id, e)
  match countedColumn? e with
  | some n =>
    let chosen := if 1 ≤ n then results[n.toNat - 1]? else none
    match chosen with
    | some c => .ok (collated c.expr)
    | none => .error (.termRange (term.2 + 1) clause results.length)
  | none => .ok (collated ((named? e).getD e))

/-- The expressions of an order, for which labels go before columns in reach. -/
def orderExprs (results : List ResultColumn) (order : List OrderTerm) :
    Except Fault (List (Expr × Bool)) := do
  let exprs ← (order.map OrderTerm.expr).zipIdx.mapM
    (termExpr "ORDER" results (labelled? results))
  return exprs.zip (order.map OrderTerm.descending)

/-- The expressions of groups, for which columns in reach go before labels. -/
def groupExprs (columns : List ScopeColumn) (results : List ResultColumn) (groups : List Expr) :
    Except Fault (List Expr) :=
  let named? (e : Expr) : Option Expr :=
    match e with
    | .column table name _ =>
      if (resolve? columns table name).isSome then none else labelled? results e
    | _ => none
  groups.zipIdx.mapM (termExpr "GROUP" results named?)

/-! ### Orders and groups -/

/-- Items without those that are like an earlier one. -/
def distinctOnes {α : Type} (same : α → α → Bool) : List α → List α
  | [] => []
  | first :: rest => first :: (distinctOnes same rest).filter fun other => !same first other

/-- A value by which rows are ordered, under a collation. -/
structure SortKey where
  value : Stored
  collation : Collation := .binary
  descending : Bool := false

def compareKeys : List SortKey → List SortKey → Ordering
  | a :: as, b :: bs =>
    match compareUnder a.collation a.value b.value with
    | .eq => compareKeys as bs
    | found => if a.descending then found.swap else found
  | _, _ => .eq

/-- Items in the order of their keys; those with equal keys stay as they are. -/
def sortedBy {α : Type} (key : α → List SortKey) (items : List α) : List (List SortKey × α) :=
  (items.map fun item => (key item, item)).mergeSort fun a b => compareKeys a.1 b.1 != .gt

def sortKey (scope : Scope) (term : Expr × Bool) : SortKey :=
  { value := term.1.eval scope
    collation := (term.1.collation? scope.columns).getD .binary
    descending := term.2 }

/-- Rows in groups that agree on some expressions, in the order of these. -/
def grouped (scope : Scope) (groups : List (Expr × Bool)) (rows : List (List Stored)) :
    List (List (List Stored)) :=
  let key (row : List Stored) := groups.map (sortKey { scope with row := row })
  ((sortedBy key rows).splitBy fun a b => compareKeys a.1 b.1 == .eq).map
    fun group => group.map Prod.snd

/-- The row with the least or the greatest value of an expression, the last if there is none. -/
def extremeRow (scope : Scope) (wanted : Ordering) (e : Expr) (rows : List (List Stored)) :
    List Stored :=
  let collation := (e.collation? scope.columns).getD .binary
  let values := rows.map fun row => (e.eval { scope with row := row }, row)
  match values.filter fun entry => entry.1 ≠ .null with
  | [] => rows.getLastD []
  | start :: rest =>
    (rest.foldl
      (fun found entry => if compareUnder collation entry.1 found.1 == wanted then entry else found)
      start).2

/-- The row of a group that columns outside of functions stand for: the one with the least or the
greatest value if the last of the functions looks for it, and otherwise the first. -/
def representative (scope : Scope) (functions : List (String × List Expr))
    (rows : List (List Stored)) : List Stored :=
  match (functions.filter fun f => f.1 == "min" || f.1 == "max").getLast? with
  | some (name, [e]) => extremeRow scope (if name == "min" then .lt else .gt) e rows
  | _ => rows.headD []

/-- Whether two rows have the same values, texts being compared under the collations of columns. -/
def sameRow (collations : List Collation) (a b : List Stored) : Bool :=
  ((a.zip b).zip collations).all fun entry =>
    compareUnder entry.2 entry.1.1 entry.1.2 == .eq

/-! ### Queries -/

/-- A bound on the number of rows, none if it is negative. -/
def rowBound (scope : Scope) : Option Expr → Except Fault (Option Nat)
  | none => .ok none
  | some e =>
    match preferInteger (preferNumber (e.eval scope)) with
    | .integer n => .ok (if n.toInt < 0 then none else some n.toInt.toNat)
    | _ => .error .wrongClass

/-- A selection whose names are known: the scope of the columns in reach, the columns of the result,
the expressions of the groups with their directions and of the order with theirs, and the functions
that run over rows. -/
structure Plan where
  scope : Scope
  results : List ResultColumn
  groups : List (Expr × Bool)
  order : List (Expr × Bool)
  functions : List (String × List Expr)

/-- The plan of a selection over some columns. Groups are gone through in the directions of an order
by as many terms. -/
def Selection.plan (q : Selection) (scope : Scope) : Except Fault Plan := do
  let columns := scope.columns
  let results := (← q.projections.mapM (Projection.columns columns)).flatten
  let exprs := results.map ResultColumn.expr
  checkAll .overRows columns exprs
  let isGrouped := !q.groups.isEmpty || !(allAggregates exprs).isEmpty
  if q.having.isSome && !isGrouped then throw .strayHaving
  checkAll .overRows columns q.having.toList
  checkAll .oneRow columns q.condition.toList
  let order ← orderExprs results q.order
  checkAll (if isGrouped then .overRows else .oneRow) columns (order.map Prod.fst)
  let groups ← groupExprs columns results q.groups
  checkAll .overRows columns groups
  if !(allAggregates groups).isEmpty then throw .groupedAggregate
  let directions :=
    if order.length = groups.length then order.map Prod.snd else groups.map fun _ => false
  let functions := allAggregates (exprs ++ order.map Prod.fst ++ q.having.toList)
  return { scope := scope, results := results, groups := groups.zip directions, order := order,
           functions := distinctOnes (· == ·) functions }

def Selection.usedPlaces (q : Selection) (p : Plan) : List Nat :=
  let exprs := p.results.map ResultColumn.expr ++ q.condition.toList ++ p.groups.map Prod.fst
    ++ q.having.toList ++ p.order.map Prod.fst
  (partsOf exprs).filterMap fun part =>
    match part with
    | .column table name _ => (resolve? p.scope.columns table name).map Prod.snd
    | _ => none

/-- What each row of the result is evaluated in: a row that meets the condition, or a group of such
rows that meets the condition on groups. Without groups the functions run over all rows. -/
def Selection.scopes (q : Selection) (p : Plan) (rows : List (List Stored)) : List Scope :=
  let holds (scope : Scope) (condition : Option Expr) : Bool :=
    condition.all fun e => truth (e.eval scope) == some true
  let kept := rows.filter fun row => holds { p.scope with row := row } q.condition
  if p.groups.isEmpty && p.functions.isEmpty then
    kept.map fun row => { p.scope with row := row }
  else
    let groups := if p.groups.isEmpty then [kept] else grouped p.scope p.groups kept
    (groups.map fun group =>
        { p.scope with row := representative p.scope p.functions group, group := group }).filter
      fun scope => holds scope q.having

/-- The rows of a selection from some rows, in their order. -/
def Selection.rows (q : Selection) (p : Plan) (rows : List (List Stored)) : List (List Stored) :=
  let exprs := p.results.map ResultColumn.expr
  let collations := exprs.map fun e => (e.collation? p.scope.columns).getD .binary
  let found := (q.scopes p rows).map fun scope => (evalAll exprs scope, scope)
  let found :=
    if q.distinct then distinctOnes (fun a b => sameRow collations a.1 b.1) found else found
  let key (entry : List Stored × Scope) := p.order.map (sortKey entry.2)
  (sortedBy key found).map fun entry => entry.2.1

def Selection.run (q : Selection) (s : Sources) : Except Fault Relation := do
  let source ← match q.source with
    | some (name, label) => s.relation name label
    | none => pure { columns := [], rows := [[]] }
  checkAll .oneRow [] (q.limit.toList ++ q.offset.toList)
  let p ← q.plan (s.scope source.columns)
  let limit ← rowBound (s.scope []) q.limit
  let offset ← rowBound (s.scope []) q.offset
  let rows := match source.table with
    | some t => (t.scan source.columns q.condition (q.usedPlaces p)).map Table.visible
    | none => source.rows
  let rows := (q.rows p rows).drop (offset.getD 0)
  return {
    columns := p.results.map fun c => { table := "", name := c.name, declared := c.declared }
    rows := (limit.map rows.take).getD rows }

def Query.run (s : Sources) : Query → Except Fault Relation
  | .select q => q.run s
  | .values rows => do
    let width := (rows.headD []).length
    if !rows.all (·.length = width) then throw .unevenRows
    rows.forM fun row => checkAll .oneRow [] row
    let columns := (List.range width).map fun place =>
      { table := "", name := "column" ++ toString (place + 1), declared := "" : ScopeColumn }
    return { columns := columns, rows := rows.map fun row => evalAll row (s.scope []) }

/-- The named selections in order, each of which sees those before it. -/
def nameQueries : List NamedQuery → Sources → Except Fault Sources
  | [], s => .ok s
  | q :: rest, s => do
    let relation ← q.query.run s
    let columns := if q.columns.isEmpty then relation.columns
      else relation.columns.zipWith (fun c name => { c with name := name }) q.columns
    nameQueries rest { s with named := s.named ++ [(q.name, { relation with columns := columns })] }

end SqlSchema.Sqlite
