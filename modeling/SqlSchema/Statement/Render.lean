import SqlSchema.Backend
import SqlSchema.Statement.Selection
import SqlSchema.Statement.Values
import SqlSchema.Text.Blank
import SqlSchema.Text.Joined

/-! Statements on the rows of a table. Insertions, selections and updates of every row escape names
and values; updates and deletions under a condition take names, values and the condition as they
are given, and there is none for a blank condition. Bytes are always hexadecimal literals. -/

namespace SqlSchema.Statement

open SqlSchema.Text

/-- The literals of values, escaped and quoted. -/
def literals (escape : Escaper) (vs : Values) : List String :=
  vs.pairs.map fun pair => pair.2.sqlLiteral escape

def insert (escape : Escaper) (table : String) (vs : Values) : String :=
  "INSERT INTO " ++ escape table ++ " (" ++ joined "," (vs.columns.map escape) ++ ") VALUES ("
    ++ joined "," (literals escape vs) ++ ")"

/-- The columns of a selection; without any, all of them. -/
def columnList (escape : Escaper) (columns : Option (List String)) : String :=
  match columns with
  | some (first :: rest) => joined "," ((first :: rest).map escape)
  | _ => "*"

/-- A fragment behind its keyword; a blank one is left out with it. -/
def fragmentClause (keyword : String) (fragment : Option String) : String :=
  match fragment with
  | some sql => textIf (!isBlank sql) (keyword ++ sql)
  | none => ""

def limitClause (limit : Option UInt64) : String :=
  match limit with
  | some n => " LIMIT " ++ toString n.toNat
  | none => ""

def select (escape : Escaper) (table : String) (s : Selection) : String :=
  "SELECT " ++ columnList escape s.columns ++ " FROM " ++ escape table
    ++ fragmentClause " WHERE " s.condition ++ fragmentClause " GROUP BY " s.grouping
    ++ fragmentClause " ORDER BY " s.order ++ limitClause s.limit

def rawText : Value → String
  | .bytes data => Value.sqlLiteral id (.bytes data)
  | v => v.literalText

/-- New values for the rows under a condition, nothing being escaped. -/
def update? (table : String) (vs : Values) (condition : String) : Option String :=
  if isBlank condition then none
  else
    let assignments := vs.pairs.map fun pair => pair.1 ++ "=" ++ rawText pair.2
    some ("UPDATE " ++ table ++ " SET " ++ joined "," assignments ++ " WHERE " ++ condition)

def updateAll (escape : Escaper) (table : String) (vs : Values) : String :=
  let assignments := vs.pairs.map fun pair => escape pair.1 ++ "=" ++ pair.2.sqlLiteral escape
  "UPDATE " ++ table ++ " SET " ++ joined "," assignments

/-- The end of the rows under a condition. -/
def delete? (table condition : String) : Option String :=
  if isBlank condition then none
  else some ("DELETE FROM " ++ table ++ " WHERE " ++ condition)

def deleteAll (table : String) : String :=
  "DELETE FROM " ++ table

end SqlSchema.Statement
