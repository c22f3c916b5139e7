import SqlSchema.Sqlite.Fault
import SqlSchema.Sqlite.Function

/-! The values of expressions in a row, and what an expression may refer to. -/

namespace SqlSchema.Sqlite

open SqlSchema.Text

/-! ### Columns in reach -/

/-- A column that an expression can name. A hidden one is the number of the row, which is not among
all columns and has names of its own. -/
structure ScopeColumn where
  table : String
  name : String
  declared : String
  collation : Collation := .binary
  hidden : Bool := false
  deriving Repr

def rowNumberNames : List String := ["rowid", "oid", "_rowid_"]

/-- Whether two names are equal, the case of ASCII letters aside. -/
def sameName (a b : String) : Bool :=
  lowerAscii a == lowerAscii b

def ScopeColumn.answersTo (table : Option String) (name : String) (c : ScopeColumn) : Bool :=
  (table.all (sameName c.table)) &&
    (if c.hidden then rowNumberNames.contains (lowerAscii name) else sameName c.name name)

def resolve? (columns : List ScopeColumn) (table : Option String) (name : String) :
    Option (ScopeColumn × Nat) :=
  columns.zipIdx.find? fun entry => entry.1.answersTo table name

/-- What an expression is evaluated in: the columns in reach, a row of them, the rows that aggregate
functions run over, and the counters of the connection. -/
structure Scope where
  columns : List ScopeColumn := []
  row : List Stored := []
  group : List (List Stored) := []
  changes : Nat := 0
  lastRowId : Int64 := 0

/-- What a name stands for that is no column: its own text, a truth value, or nothing. -/
def unresolved (name : String) (orText : Bool) : Option Stored :=
  if orText then some (.text name)
  else match lowerAscii name with
    | "true" => some (ofBool true)
    | "false" => some (ofBool false)
    | _ => none

/-! ### Expressions -/

/-- The affinity of an expression, which columns and conversions have. -/
def Expr.affinity? (columns : List ScopeColumn) : Expr → Option Affinity
  | .column table name _ =>
    (resolve? columns table name).map fun found => Affinity.ofDeclared found.1.declared
  | .cast _ type => some (castAffinity type)
  | .collated e _ => e.affinity? columns
  | _ => none

mutual

/-- An expression and all that it consists of, each part before its own parts. -/
def Expr.parts : Expr → List Expr
  | .literal v => [.literal v]
  | .parameter => [.parameter]
  | .column table name orText => [.column table name orText]
  | .countAll => [.countAll]
  | .refused fault => [.refused fault]
  | .negation e => .negation e :: e.parts
  | .opposite e => .opposite e :: e.parts
  | .complement e => .complement e :: e.parts
  | .cast e type => .cast e type :: e.parts
  | .collated e collation => .collated e collation :: e.parts
  | .binary op left right => .binary op left right :: (left.parts ++ right.parts)
  | .member e items => .member e items :: (e.parts ++ partsOf items)
  | .choice parts => .choice parts :: partsOf parts
  | .call function arguments => .call function arguments :: partsOf arguments

def partsOf : List Expr → List Expr
  | [] => []
  | e :: rest => e.parts ++ partsOf rest

end

/-- The collation that an expression asks for, the first one if it does so in several places. -/
def Expr.askedCollation? (e : Expr) : Option Collation :=
  e.parts.findSome? fun part =>
    match part with
    | .collated _ collation => some collation
    | _ => none

/-- The collation of an expression: what it asks for, or that of its column. -/
def Expr.collation? (columns : List ScopeColumn) : Expr → Option Collation
  | .column table name _ => (resolve? columns table name).map fun found => found.1.collation
  | .cast e type => (e.collation? columns).or (Expr.cast e type).askedCollation?
  | e => e.askedCollation?

/-- The collation of a comparison: what one side asks for, the left one first, and otherwise that of
a column. -/
def comparisonCollation (columns : List ScopeColumn) (left right : Expr) : Collation :=
  ((((left.askedCollation?.or right.askedCollation?).or (left.collation? columns)).or
    (right.collation? columns))).getD .binary

/-- The result of a choice whose parts have these values. -/
def chosen : List Stored → Stored
  | condition :: result :: rest => if truth condition == some true then result else chosen rest
  | [otherwise] => otherwise
  | [] => .null

mutual

def Expr.eval : Expr → Scope → Stored
  | .literal v, _ => v
  | .parameter, _ | .refused _, _ => .null
  | .column table name orText, scope =>
    match resolve? scope.columns table name with
    | some found => scope.row.getD found.2 .null
    | none => (unresolved name orText).getD .null
  | .negation e, scope => ofTruth ((truth (e.eval scope)).map not)
  | .opposite e, scope => arithmetic .subtract (.integer 0) (asNumber (e.eval scope))
  | .complement e, scope =>
    match e.eval scope with
    | .null => .null
    | v => .integer (~~~ asInteger v)
  | .binary op left right, scope =>
    let a := left.eval scope
    let b := right.eval scope
    if op.isComparison then
      let (a, b) := alike (left.affinity? scope.columns) (right.affinity? scope.columns) a b
      op.apply (comparisonCollation scope.columns left right) a b
    else op.apply .binary a b
  | .member e items, scope =>
    let a := e.eval scope
    let preferred := (e.affinity? scope.columns).getD .blob
    let collation := (e.collation? scope.columns).getD .binary
    let isFound := fun v => truth (Operator.equal.apply collation a (preferred.store v))
    ofTruth (((evalAll items scope).map isFound).foldl disjunction (some false))
  | .choice parts, scope => chosen (evalAll parts scope)
  | .cast e type, scope => castTo type (e.eval scope)
  | .collated e _, scope => e.eval scope
  | .call function arguments, scope =>
    let collation := (arguments.findSome? (Expr.collation? scope.columns)).getD .binary
    if isAggregate function arguments.length then
      aggregate collation function
        (scope.group.map fun row => evalAll arguments { scope with row := row })
    else
      scalar scope.changes scope.lastRowId collation function (evalAll arguments scope)
  | .countAll, scope => .integer (.ofNat scope.group.length)

def evalAll : List Expr → Scope → List Stored
  | [], _ => []
  | e :: rest, scope => e.eval scope :: evalAll rest scope

end

def columnText (table : Option String) (name : String) : String :=
  match table with
  | some table => table ++ "." ++ name
  | none => name

/-- Where an expression stands: in a place that has rows to run over, in one that has none, in a
condition that a table keeps, where parameters have no place either, or in a default. -/
inductive ExprPlace
  | overRows
  | oneRow
  | tableCondition
  | byDefault
  deriving Repr, DecidableEq

/-- A search for faults in an expression: the last one found, one that counts only if there is no
other, and whether the search is over. -/
structure Search where
  fault : Option Fault := none
  postponed : Option Fault := none
  ended : Bool := false
  deriving Repr, DecidableEq

namespace Search

/-- The search at a part that has nothing to be known by itself. It ends there if there is a fault
already. -/
def visit (s : Search) : Search :=
  { s with ended := s.ended || s.fault.isSome }

/-- The search after a fault with which it goes on. -/
def note (s : Search) (fault : Option Fault) : Search :=
  if s.ended then s else { s with fault := fault.or s.fault }

/-- The search after a fault with which it ends. -/
def stop (s : Search) (fault : Fault) : Search :=
  if s.ended then s else { s with fault := some fault, ended := true }

/-- The search after a fault that others go before. -/
def postpone (s : Search) (fault : Fault) : Search :=
  if s.ended then s else { s with postponed := some fault }

/-- The search after the arguments of a function, with which it does not end. -/
def resume (before after : Search) : Search :=
  { after with ended := before.ended }

def result (s : Search) : Except Fault Unit :=
  match s.fault.or s.postponed with
  | some fault => .error fault
  | none => .ok ()

end Search

/-- What is wrong with a function with a count of arguments: it must be known, and run over rows
only where there are some. -/
def functionFault? (place : ExprPlace) (function : String) (arguments : Nat) : Option Fault :=
  let isScalar := hasFunction scalarFunctions function arguments
  if place = .byDefault then if isScalar then none else some (.unknownFunction function)
  else if isAggregate function arguments then
    if place = .overRows then none else some (.misusedAggregate function)
  else if isScalar then none
  else some (if isFunction function then .argumentCount function else .noFunction function)

def searchColumn (columns : List ScopeColumn) (table : Option String) (name : String)
    (orText : Bool) (s : Search) : Search :=
  let isKnown := (resolve? columns table name).isSome
    || (table.isNone && (unresolved name orText).isSome)
  if isKnown then s else s.stop (.noColumn (columnText table name))

/-- The search at the right-hand side of an identity, which comes first if it is a column. -/
def searchCompared (columns : List ScopeColumn) (op : Operator) (right : Expr) (s : Search) :
    Search :=
  match op, right with
  | .same, .column none name orText | .different, .column none name orText =>
    searchColumn columns none name orText s
  | _, _ => s

mutual

/-- The search for columns and functions of an expression that are not known or have no place where
it stands. -/
def Expr.search (place : ExprPlace) (columns : List ScopeColumn) : Expr → Search → Search
  | .literal _, s => s.visit
  | .parameter, s => if place = .tableCondition then s.stop .parameterInCheck else s.visit
  | .refused fault, s => s.visit.postpone fault
  | .column table name orText, s => searchColumn columns table name orText s
  | .negation e, s => e.search place columns s.visit
  | .opposite e, s => e.search place columns s.visit
  | .complement e, s => e.search place columns s.visit
  | .binary op left right, s =>
    right.search place columns
      (left.search place columns (searchCompared columns op right s).visit)
  | .member e items, s => searchAll place columns items (e.search place columns s.visit)
  | .choice parts, s => searchAll place columns parts s.visit
  | .cast e _, s => e.search place columns s.visit
  | .collated e _, s => e.search place columns s.visit
  | .call function arguments, s =>
    let inner := if isAggregate function arguments.length then .oneRow else place
    s.resume
      (searchAll inner columns arguments
        (s.note (functionFault? place function arguments.length)))
  | .countAll, s => s.note (functionFault? place "count" 0)

def searchAll (place : ExprPlace) (columns : List ScopeColumn) : List Expr → Search → Search
  | [], s => s
  | e :: rest, s => searchAll place columns rest (e.search place columns s)

end

/-- The columns and functions of an expression must be known and have a place where it stands. -/
def Expr.check (place : ExprPlace) (columns : List ScopeColumn) (e : Expr) : Except Fault Unit :=
  (e.search place columns {}).result

def checkAll (place : ExprPlace) (columns : List ScopeColumn) (es : List Expr) :
    Except Fault Unit :=
  es.forM (Expr.check place columns)

/-- Whether an expression has a value of its own: it names no column but the truth values, and no
parameter. -/
def Expr.isConstant (e : Expr) : Bool :=
  e.parts.all fun part =>
    match part with
    | .parameter => false
    | .column table name orText => table.isNone && !orText && (unresolved name false).isSome
    | _ => true

/-- The parts of some expressions that run over rows, in order, each as a function and arguments. -/
def allAggregates (es : List Expr) : List (String × List Expr) :=
  (partsOf es).filterMap fun part =>
    match part with
    | .call function arguments =>
      if isAggregate function arguments.length then some (lowerAscii function, arguments) else none
    | .countAll => some ("count", [])
    | _ => none

end SqlSchema.Sqlite
