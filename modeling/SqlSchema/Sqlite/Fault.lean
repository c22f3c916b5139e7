import SqlSchema.Driver.Basic

/-! Why SQLite refuses a statement. Each cause has a result code, extended for constraints, and a
message. -/

namespace SqlSchema.Sqlite

/-- Why SQLite refuses a statement. Columns are written behind their table. -/
inductive Fault
  | unexpected (token : String)
  | incomplete
  | unrecognized (token : String)
  | noTable (name : String)
  | noColumn (name : String)
  | noColumnOf (table column : String)
  | noFunction (name : String)
  | argumentCount (function : String)
  | unknownFunction (name : String)
  | misusedAggregate (function : String)
  | groupedAggregate
  | misusedRow
  | parameterInCheck
  | parameterNumber
  | parameterFormat (name : String)
  | parameterName (name : String)
  | hexTooLong (literal : String)
  | noCollation (name : String)
  | tableExists (name : String)
  | reservedName (name : String)
  | duplicateColumn (name : String)
  | manyPrimaryKeys (table : String)
  | variableDefault (column : String)
  | countingKey
  | keyExpression
  | keyConflict
  | noPlainColumn
  | generatedGiven (column : String)
  | generatedAssigned (column : String)
  | unknownReferrer (column : String)
  | referenceWidth
  | columnReferenceWidth (column table : String)
  | noReferencedTable (table : String)
  | mismatchedReference (child parent : String)
  | tableWidth (table : String) (columns values : Nat)
  | listWidth (values columns : Nat)
  | unevenRows
  | noSource
  | nullRefused (column : String)
  | checkFailed (name : String)
  | referenceFailed
  | referenceRestricted
  | tooManyLevels
  | keyRepeated (columns : List String)
  | valueRepeated (columns : List String)
  | wrongClass
  | full
  | strayHaving
  | termRange (nth : Nat) (clause : String) (columns : Nat)
  | readOnly
  | cannotOpen
  deriving Repr, DecidableEq

namespace Fault

def code : Fault → Nat
  | .nullRefused _ => 1299
  | .checkFailed _ => 275
  | .referenceFailed => 787
  | .referenceRestricted => 1811
  | .keyRepeated _ => 1555
  | .valueRepeated _ => 2067
  | .wrongClass => 20
  | .full => 13
  | .noCollation _ => 257
  | .readOnly => 8
  | .cannotOpen => 14
  | _ => 1

def ordinal (n : Nat) : String :=
  let suffix :=
    if n / 10 % 10 = 1 then "th"
    else match n % 10 with
      | 1 => "st"
      | 2 => "nd"
      | 3 => "rd"
      | _ => "th"
  toString n ++ suffix

def message : Fault → String
  | .unexpected token => s!"near \"{token}\": syntax error"
  | .incomplete => "incomplete input"
  | .unrecognized token => s!"unrecognized token: \"{token}\""
  | .noTable name => s!"no such table: {name}"
  | .noColumn name => s!"no such column: {name}"
  | .noColumnOf table column => s!"table {table} has no column named {column}"
  | .noFunction name => s!"no such function: {name}"
  | .argumentCount function => s!"wrong number of arguments to function {function}()"
  | .unknownFunction name => s!"unknown function: {name}()"
  | .groupedAggregate => "aggregate functions are not allowed in the GROUP BY clause"
  | .misusedRow => "row value misused"
  | .misusedAggregate function => s!"misuse of aggregate function {function}()"
  | .parameterInCheck => "parameters prohibited in CHECK constraints"
  | .parameterNumber => "variable number must be between ?1 and ?32766"
  | .parameterFormat name => s!"unsupported SQL parameter format: {name}"
  | .parameterName name =>
    s!"parameters with non-integer names are not currently supported: {name}"
  | .hexTooLong literal => s!"hex literal too big: {literal}"
  | .noCollation name => s!"no such collation sequence: {name}"
  | .tableExists name => s!"table {name} already exists"
  | .reservedName name => s!"object name reserved for internal use: {name}"
  | .duplicateColumn name => s!"duplicate column name: {name}"
  | .manyPrimaryKeys table => s!"table \"{table}\" has more than one primary key"
  | .variableDefault column => s!"default value of column [{column}] is not constant"
  | .countingKey => "AUTOINCREMENT is only allowed on an INTEGER PRIMARY KEY"
  | .keyExpression => "expressions prohibited in PRIMARY KEY and UNIQUE constraints"
  | .keyConflict => "conflicting ON CONFLICT clauses specified"
  | .noPlainColumn => "must have at least one non-generated column"
  | .generatedGiven column => s!"cannot INSERT into generated column \"{column}\""
  | .generatedAssigned column => s!"cannot UPDATE generated column \"{column}\""
  | .unknownReferrer column => s!"unknown column \"{column}\" in foreign key definition"
  | .referenceWidth =>
    "number of columns in foreign key does not match the number of columns in the referenced table"
  | .columnReferenceWidth column table =>
    s!"foreign key on {column} should reference only one column of table {table}"
  | .noReferencedTable table => s!"no such table: main.{table}"
  | .mismatchedReference child parent =>
    s!"foreign key mismatch - \"{child}\" referencing \"{parent}\""
  | .tableWidth table columns values =>
    s!"table {table} has {columns} columns but {values} values were supplied"
  | .listWidth values columns => s!"{values} values for {columns} columns"
  | .unevenRows => "all VALUES must have the same number of terms"
  | .noSource => "no tables specified"
  | .nullRefused column => s!"NOT NULL constraint failed: {column}"
  | .checkFailed name => s!"CHECK constraint failed: {name}"
  | .referenceFailed | .referenceRestricted => "FOREIGN KEY constraint failed"
  | .tooManyLevels => "too many levels of trigger recursion"
  | .keyRepeated columns | .valueRepeated columns =>
    "UNIQUE constraint failed: " ++ String.intercalate ", " columns
  | .wrongClass => "datatype mismatch"
  | .full => "database or disk is full"
  | .termRange nth clause columns =>
    ordinal nth ++ s!" {clause} BY term out of range - should be between 1 and {columns}"
  | .strayHaving => "HAVING clause on a non-aggregate query"
  | .readOnly => "attempt to write a readonly database"
  | .cannotOpen => "unable to open database file"

/-- The refusal as a driver reports it. Of parameters the driver complains itself, since it has no
values for them. -/
def reported (f : Fault) : Driver.BackendFault :=
  match f with
  | .parameterFormat _ | .parameterName _ => .protocol f.message
  | f => .sqlite f.code f.message

end Fault

end SqlSchema.Sqlite
