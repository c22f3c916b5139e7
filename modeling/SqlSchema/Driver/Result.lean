import SqlSchema.Row

/-! Results of statements: rows, a number of rows changed, or a rejection by the backend; and the
bookkeeping that a driver keeps of them. -/

namespace SqlSchema.Driver

structure Selected where
  columns : List ColumnInfo
  rows : List Row
  milliseconds : Nat
  query : String
  deriving Repr

def Selected.rowCount (s : Selected) : Nat :=
  s.rows.length

/-- What a statement without rows changed. -/
structure Modified where
  rowsAffected : Nat
  lastInsertId : Option Nat := none
  milliseconds : Nat := 0
  deriving Repr, DecidableEq

/-- A rejection, in the words of the backend. -/
structure Rejection where
  message : String
  milliseconds : Nat := 0
  deriving Repr, DecidableEq

/-- The result of a statement that reached the backend. -/
inductive Execution
  | selected (s : Selected)
  | modified (m : Modified)
  | rejected (r : Rejection)
  deriving Repr

namespace Execution

def isRejected : Execution → Bool
  | .rejected _ => true
  | _ => false

/-- What was changed, rows that were returned counting as rows affected. -/
def toModified : Execution → Modified
  | .modified m => m
  | .selected s => { rowsAffected := s.rowCount, milliseconds := s.milliseconds }
  | .rejected r => { rowsAffected := 0, milliseconds := r.milliseconds }

/-- The rows; a result without rows counts as an empty selection by the statement. -/
def toSelected (query : String) : Execution → Selected
  | .selected s => s
  | .modified m => ⟨[], [], m.milliseconds, query⟩
  | .rejected r => ⟨[], [], r.milliseconds, query⟩

end Execution

/-- What a driver remembers: the last identifier that a statement generated, and the number of rows
that the last statement returned or changed. -/
structure Stats where
  lastInsertId : Option Nat := none
  rowCount : Nat := 0
  deriving Repr, DecidableEq

/-- The bookkeeping after one more result. A rejection changes nothing, and a statement that
generated no identifier leaves the last one. -/
def Stats.record (s : Stats) : Execution → Stats
  | .selected r => { s with rowCount := r.rowCount }
  | .modified m => { lastInsertId := m.lastInsertId.or s.lastInsertId, rowCount := m.rowsAffected }
  | .rejected _ => s

end SqlSchema.Driver
