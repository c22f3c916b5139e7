import SqlSchema.Connection.Error
import SqlSchema.Driver.Basic
import SqlSchema.Schema.Ddl
import SqlSchema.Statement.Render

/-! Sessions: a driver and the schema it serves. A session turns tables and values into statements,
hands them to its driver, and keeps a record of its last failure. Nothing is sent after it has been
closed, for a table that does not compile, or under a blank condition. -/

namespace SqlSchema.Connection

open SqlSchema.Driver SqlSchema.Schema SqlSchema.Text

/-- The record of a session: whether it is open, whether it has failed, and the last message. A
success leaves the record as it is. -/
structure Status where
  connected : Bool
  error : Bool := false
  message : String := ""
  deriving Repr, DecidableEq

def Status.fail (s : Status) (message : String) : Status :=
  { s with error := true, message := message }

/-- The outcome of a statement that needs a condition. -/
inductive Outcome
  | executed (m : Modified)
  | skipped
  deriving Repr, DecidableEq

/-- The rows affected, of which a skipped statement has none. -/
def Outcome.rowsAffected : Outcome → Nat
  | .executed m => m.rowsAffected
  | .skipped => 0

structure Session (σ : Type) where
  driver : Driver σ
  state : σ
  registry : Registry
  status : Status

/-- What an operation answers, with the session after it. -/
abbrev Answer (σ α : Type) := Except DatabaseError α × Session σ

namespace Session

variable {σ α β : Type}

/-- A session over a driver that is connected. -/
def start (driver : Driver σ) (state : σ) (registry : Registry) : Session σ :=
  { driver := driver, state := state, registry := registry, status := { connected := true } }

/-- A session over a driver that is yet to be connected. -/
def connect (driver : Driver σ) (state : σ) (registry : Registry) :
    Except DatabaseError (Session σ) :=
  match driver.connect state with
  | (.ok (), state) => .ok (start driver state registry)
  | (.error cause, _) => .error (.connect cause)

def fail (c : Session σ) (message : String) : Session σ :=
  { c with status := c.status.fail message }

def schemaFailure (c : Session σ) (cause : SchemaError) : Answer σ α :=
  (.error (.schema cause), c.fail cause.message)

def rejection (c : Session σ) (context query message : String) : Answer σ α :=
  let error := DatabaseError.rejected context query message
  (.error error, c.fail error.message)

def whenOpen (c : Session σ) (operation : Answer σ α) : Answer σ α :=
  if c.status.connected then operation else (.error .notConnected, c)

def answerMap (f : α → β) (answer : Answer σ α) : Answer σ β :=
  (answer.1.map f, answer.2)

/-- One statement, with the words that its failure is told in. -/
def run (c : Session σ) (sql context : String) : Answer σ Execution :=
  match c.driver.execute sql c.state with
  | (.ok (.rejected r), state) => { c with state := state }.rejection context sql r.message
  | (.ok result, state) => (.ok result, { c with state := state })
  | (.error cause, state) =>
    (.error (.driver cause),
      { c with state := state }.fail (context ++ ". Error: " ++ cause.message))

def runBatch (c : Session σ) (statements : List String) : Answer σ (List Execution) :=
  match c.driver.executeBatch statements c.state with
  | (.ok results, state) => (.ok results, { c with state := state })
  | (.error cause, state) =>
    (.error (.driver cause),
      { c with state := state }.fail ("Batch failed. Error: " ++ cause.message))

/-- Statements one after another, of which none may be rejected. The rejected one is the last that
has a result; `context` words its failure by its place. -/
def runAll (c : Session σ) (statements : List String) (context : Nat → String) :
    Answer σ (List Execution) :=
  match c.runBatch statements with
  | (.error e, c) => (.error e, c)
  | (.ok results, c) =>
    match results.getLast? with
    | some (.rejected r) =>
      let place := results.length - 1
      c.rejection (context place) (statements.getD place "") r.message
    | _ => (.ok results, c)

/-! ### Tables -/

/-- Creates a registered table unless it exists, and gives the statement that was sent. -/
def verifyTable (c : Session σ) (table : String) : Answer σ String :=
  c.whenOpen <|
    match c.registry.compile c.driver.escape table with
    | .error cause => c.schemaFailure cause
    | .ok ddl => answerMap (fun _ => ddl) (c.run ddl ("Could not verify table " ++ table))

/-- Creates all tables unless they exist, in order, and gives the statements. Nothing is sent if one
does not compile. -/
def verifyTables (c : Session σ) : Answer σ (List String) :=
  c.whenOpen <|
    match c.registry.compileAll c.driver.escape with
    | .error cause => c.schemaFailure cause
    | .ok statements =>
      answerMap (fun _ => statements)
        (c.runAll statements fun place =>
          "Could not verify table " ++ c.registry.tableNames.getD place "")

/-! ### Rows -/

def insert (c : Session σ) (table : String) (values : Values) : Answer σ Modified :=
  c.whenOpen <| answerMap Execution.toModified
    (c.run (Statement.insert c.driver.escape table values)
      ("Could not insert into table " ++ table))

def select (c : Session σ) (table : String) (selection : Selection) : Answer σ Selected :=
  let sql := Statement.select c.driver.escape table selection
  c.whenOpen <| answerMap (Execution.toSelected sql)
    (c.run sql ("Could not select from table " ++ table))

def runUnlessSkipped (c : Session σ) (sql : Option String) (context : String) :
    Answer σ Outcome :=
  match sql with
  | none => (.ok .skipped, c)
  | some sql => answerMap (fun result => .executed result.toModified) (c.run sql context)

/-- Changes the rows under a condition, which must not be blank. -/
def update (c : Session σ) (table : String) (values : Values) (condition : String) :
    Answer σ Outcome :=
  c.whenOpen <| c.runUnlessSkipped (Statement.update? table values condition)
    ("Could not update table " ++ table)

def updateAll (c : Session σ) (table : String) (values : Values) : Answer σ Modified :=
  c.whenOpen <| answerMap Execution.toModified
    (c.run (Statement.updateAll c.driver.escape table values) ("Could not update table " ++ table))

/-- Removes the rows under a condition, which must not be blank. -/
def delete (c : Session σ) (table condition : String) : Answer σ Outcome :=
  c.whenOpen <| c.runUnlessSkipped (Statement.delete? table condition)
    ("Could not delete from table " ++ table)

def deleteAll (c : Session σ) (table : String) : Answer σ Modified :=
  c.whenOpen <| answerMap Execution.toModified
    (c.run (Statement.deleteAll table) ("Could not delete from table " ++ table))

/-! ### Statements as they are -/

/-- Statements one after another, up to the first rejection, which is an error. -/
def executeBatch (c : Session σ) (statements : List String) : Answer σ (List Execution) :=
  c.whenOpen <| c.runAll statements fun place =>
    s!"Could not execute statement {place + 1} of {statements.length}"

/-- Closes the session. The error flag becomes what is given, and so does the message if there is
one. A failure of the driver to disconnect is not kept. -/
def disconnect (c : Session σ) (isError : Bool) (message : Option String) : Session σ :=
  let state := if c.status.connected then (c.driver.disconnect c.state).2 else c.state
  { c with
    state := state
    status :=
      { connected := false, error := isError, message := message.getD c.status.message } }

/-- The last identifier that a statement generated. -/
def lastInsertId (c : Session σ) : Option Nat :=
  (c.driver.stats c.state).lastInsertId

def rowCount (c : Session σ) : Nat :=
  (c.driver.stats c.state).rowCount

end Session

end SqlSchema.Connection
