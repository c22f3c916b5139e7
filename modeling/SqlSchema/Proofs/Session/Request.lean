import SqlSchema.Connection.Session

/-! # Operations of a session

The operations of a session as data, and runs of them. An operation on an open session comes down
to one of four plans, by which everything about runs is proved. -/

namespace SqlSchema.Connection

open SqlSchema.Driver SqlSchema.Schema

/-! ## Operations and their answers -/

/-- An operation that asks for statements. -/
inductive Request
  | verifyTable (table : String)
  | verifyTables
  | insert (table : String) (values : Values)
  | select (table : String) (selection : Selection)
  | update (table : String) (values : Values) (condition : String)
  | updateAll (table : String) (values : Values)
  | delete (table condition : String)
  | deleteAll (table : String)
  | executeBatch (statements : List String)

inductive Operation
  | request (q : Request)
  | disconnect (isError : Bool) (message : Option String)

/-- What an operation answers when it succeeds. -/
inductive Receipt
  | statement (sql : String)
  | statements (sqls : List String)
  | modified (m : Modified)
  | selected (s : Selected)
  | outcome (o : Outcome)
  | executions (results : List Execution)
  | closed

namespace Session

variable {σ : Type}

def answer (c : Session σ) : Request → Answer σ Receipt
  | .verifyTable table => answerMap .statement (c.verifyTable table)
  | .verifyTables => answerMap .statements c.verifyTables
  | .insert table values => answerMap .modified (c.insert table values)
  | .select table selection => answerMap .selected (c.select table selection)
  | .update table values condition => answerMap .outcome (c.update table values condition)
  | .updateAll table values => answerMap .modified (c.updateAll table values)
  | .delete table condition => answerMap .outcome (c.delete table condition)
  | .deleteAll table => answerMap .modified (c.deleteAll table)
  | .executeBatch statements => answerMap .executions (c.executeBatch statements)

def perform (c : Session σ) : Operation → Answer σ Receipt
  | .request q => c.answer q
  | .disconnect isError message => (.ok .closed, c.disconnect isError message)

/-- The session after operations one after another, with all answers. -/
def performAll (c : Session σ) :
    List Operation → List (Except DatabaseError Receipt) × Session σ
  | [] => ([], c)
  | op :: ops =>
    let (first, c) := c.perform op
    let (others, c) := c.performAll ops
    (first :: others, c)

end Session

/-! ## Plans -/

/-- What a request on an open session comes down to: a defect of the schema, nothing, one statement,
or a batch of which nothing may be rejected. -/
inductive Plan
  | defect (cause : SchemaError)
  | skip (receipt : Receipt)
  | statement (sql context : String) (receipt : Execution → Receipt)
  | batch (statements : List String) (context : Nat → String) (receipt : List Execution → Receipt)

/-- The plan of a request that needs a condition. -/
def Plan.unlessSkipped (sql : Option String) (context : String) : Plan :=
  match sql with
  | none => .skip (.outcome .skipped)
  | some sql => .statement sql context fun result => .outcome (.executed result.toModified)

/-- The plan of a request under an escaping rule and a schema. -/
def Request.plan (escape : Escaper) (r : Registry) : Request → Plan
  | .verifyTable table =>
    match r.compile escape table with
    | .error cause => .defect cause
    | .ok ddl => .statement ddl ("Could not verify table " ++ table) fun _ => .statement ddl
  | .verifyTables =>
    match r.compileAll escape with
    | .error cause => .defect cause
    | .ok ddls =>
      .batch ddls (fun place => "Could not verify table " ++ r.tableNames.getD place "")
        fun _ => .statements ddls
  | .insert table values =>
    .statement (Statement.insert escape table values) ("Could not insert into table " ++ table)
      fun result => .modified result.toModified
  | .select table selection =>
    let sql := Statement.select escape table selection
    .statement sql ("Could not select from table " ++ table)
      fun result => .selected (result.toSelected sql)
  | .update table values condition =>
    .unlessSkipped (Statement.update? table values condition) ("Could not update table " ++ table)
  | .updateAll table values =>
    .statement (Statement.updateAll escape table values) ("Could not update table " ++ table)
      fun result => .modified result.toModified
  | .delete table condition =>
    .unlessSkipped (Statement.delete? table condition) ("Could not delete from table " ++ table)
  | .deleteAll table =>
    .statement (Statement.deleteAll table) ("Could not delete from table " ++ table)
      fun result => .modified result.toModified
  | .executeBatch statements =>
    .batch statements
      (fun place => s!"Could not execute statement {place + 1} of {statements.length}") .executions

namespace Session

variable {σ α β γ : Type}

def follow (c : Session σ) : Plan → Answer σ Receipt
  | .defect cause => c.schemaFailure cause
  | .skip receipt => (.ok receipt, c)
  | .statement sql context receipt => answerMap receipt (c.run sql context)
  | .batch statements context receipt => answerMap receipt (c.runAll statements context)

theorem answerMap_answerMap (f : α → β) (g : β → γ) (a : Answer σ α) :
    answerMap g (answerMap f a) = answerMap (g ∘ f) a := by
  obtain ⟨result, c⟩ := a
  cases result <;> rfl

theorem answerMap_id (a : Answer σ α) : answerMap (fun value => value) a = a := by
  obtain ⟨result, c⟩ := a
  cases result <;> rfl

theorem answerMap_whenOpen (f : α → β) (c : Session σ) (a : Answer σ α) :
    answerMap f (c.whenOpen a) = c.whenOpen (answerMap f a) := by
  unfold whenOpen
  split <;> rfl

theorem answerMap_runUnlessSkipped (c : Session σ) (sql : Option String) (context : String) :
    answerMap .outcome (c.runUnlessSkipped sql context) =
      c.follow (.unlessSkipped sql context) := by
  cases sql with
  | none => rfl
  | some sql => exact answerMap_answerMap _ _ _

theorem answer_eq_follow (c : Session σ) (q : Request) :
    c.answer q = c.whenOpen (c.follow (q.plan c.driver.escape c.registry)) := by
  cases q with
  | verifyTable table =>
      rw [answer, verifyTable, answerMap_whenOpen, Request.plan]
      cases c.registry.compile c.driver.escape table with
      | error cause => rfl
      | ok ddl => exact congrArg _ (answerMap_answerMap _ _ _)
  | verifyTables =>
      rw [answer, verifyTables, answerMap_whenOpen, Request.plan]
      cases c.registry.compileAll c.driver.escape with
      | error cause => rfl
      | ok ddls => exact congrArg _ (answerMap_answerMap _ _ _)
  | insert table values =>
      rw [answer, insert, answerMap_whenOpen, answerMap_answerMap]
      rfl
  | select table selection =>
      rw [answer, select, answerMap_whenOpen, answerMap_answerMap]
      rfl
  | update table values condition =>
      rw [answer, update, answerMap_whenOpen, answerMap_runUnlessSkipped]
      rfl
  | updateAll table values =>
      rw [answer, updateAll, answerMap_whenOpen, answerMap_answerMap]
      rfl
  | delete table condition =>
      rw [answer, delete, answerMap_whenOpen, answerMap_runUnlessSkipped]
      rfl
  | deleteAll table =>
      rw [answer, deleteAll, answerMap_whenOpen, answerMap_answerMap]
      rfl
  | executeBatch statements =>
      rw [answer, executeBatch, answerMap_whenOpen]
      rfl

end Session

/-! ## What a plan leaves behind -/

/-- The text that a failure is recorded by. A failure of the driver is told in the words of what was
tried. -/
def DatabaseError.recordedText (context : String) : DatabaseError → String
  | .driver cause => context ++ ". Error: " ++ cause.message
  | e => e.message

def Status.after {α : Type} (s : Status) (context : String) : Except DatabaseError α → Status
  | .ok _ => s
  | .error e => s.fail (e.recordedText context)

theorem Status.connected_after {α : Type} (s : Status) (context : String)
    (result : Except DatabaseError α) : (s.after context result).connected = s.connected := by
  cases result <;> rfl

/-- What is told before the failure of the driver under a request. -/
def Request.context : Request → String
  | .verifyTable table => "Could not verify table " ++ table
  | .verifyTables => "Batch failed"
  | .insert table _ => "Could not insert into table " ++ table
  | .select table _ => "Could not select from table " ++ table
  | .update table _ _ => "Could not update table " ++ table
  | .updateAll table _ => "Could not update table " ++ table
  | .delete table _ => "Could not delete from table " ++ table
  | .deleteAll table => "Could not delete from table " ++ table
  | .executeBatch _ => "Batch failed"

def Plan.TellsOf (context : String) : Plan → Prop
  | .statement _ told _ => told = context
  | .batch _ _ _ => context = "Batch failed"
  | _ => True

theorem Plan.tellsOf_unlessSkipped (sql : Option String) (context : String) :
    (Plan.unlessSkipped sql context).TellsOf context := by
  cases sql with
  | none => trivial
  | some sql => rfl

theorem Request.tellsOf_plan (escape : Escaper) (r : Registry) (q : Request) :
    (q.plan escape r).TellsOf q.context := by
  cases q with
  | verifyTable table =>
      rw [Request.plan]
      cases r.compile escape table with
      | error cause => trivial
      | ok ddl => rfl
  | verifyTables =>
      rw [Request.plan]
      cases r.compileAll escape with
      | error cause => trivial
      | ok ddls => rfl
  | update table values condition => exact Plan.tellsOf_unlessSkipped _ _
  | delete table condition => exact Plan.tellsOf_unlessSkipped _ _
  | _ => rfl

namespace Session

variable {σ α : Type}

/-- The session with another state of its driver, and the record after an answer. -/
def advance (c : Session σ) (state : σ) (context : String) (result : Except DatabaseError α) :
    Session σ :=
  { c with state := state, status := c.status.after context result }

theorem run_eq_advance (c : Session σ) (sql context : String) :
    (c.run sql context).2 =
      c.advance (c.run sql context).2.state context (c.run sql context).1 := by
  unfold run
  split <;> rfl

theorem runBatch_eq_advance (c : Session σ) (statements : List String) :
    (c.runBatch statements).2 =
      c.advance (c.runBatch statements).2.state "Batch failed" (c.runBatch statements).1 := by
  unfold runBatch
  split <;> rfl

theorem runAll_eq_advance (c : Session σ) (statements : List String) (context : Nat → String) :
    (c.runAll statements context).2 = c.advance (c.runAll statements context).2.state
      "Batch failed" (c.runAll statements context).1 := by
  have hbatch := c.runBatch_eq_advance statements
  unfold runAll
  generalize c.runBatch statements = sent at hbatch
  obtain ⟨result, next⟩ := sent
  cases result with
  | error e => exact hbatch
  | ok results =>
      have hnext : next = { c with state := next.state } := hbatch
      dsimp only
      split
      · rw [hnext]
        rfl
      · exact hbatch

theorem answerMap_eq_advance {β : Type} {c : Session σ} {context : String} (f : α → β)
    {a : Answer σ α} (h : a.2 = c.advance a.2.state context a.1) :
    (answerMap f a).2 = c.advance (answerMap f a).2.state context (answerMap f a).1 := by
  obtain ⟨result, next⟩ := a
  cases result <;> exact h

/-- A plan changes the state of the driver and records its failure, and changes nothing else. -/
theorem follow_eq_advance (c : Session σ) {p : Plan} {context : String} (h : p.TellsOf context) :
    (c.follow p).2 = c.advance (c.follow p).2.state context (c.follow p).1 := by
  cases p with
  | defect cause => rfl
  | skip receipt => rfl
  | statement sql told receipt =>
      obtain rfl : told = context := h
      exact answerMap_eq_advance receipt (c.run_eq_advance sql told)
  | batch statements place receipt =>
      obtain rfl : context = "Batch failed" := h
      exact answerMap_eq_advance receipt (c.runAll_eq_advance statements place)

/-! ## What an operation leaves behind -/

theorem answer_of_closed {c : Session σ} (hclosed : c.status.connected = false) (q : Request) :
    c.answer q = (.error .notConnected, c) := by
  rw [answer_eq_follow, whenOpen, hclosed]
  rfl

theorem answer_of_open {c : Session σ} (hopen : c.status.connected = true) (q : Request) :
    c.answer q = c.follow (q.plan c.driver.escape c.registry) := by
  rw [answer_eq_follow, whenOpen, hopen]
  rfl

/-- A request on an open session changes the state of the driver and records its failure, and
changes nothing else. -/
theorem answer_eq_advance {c : Session σ} (hopen : c.status.connected = true) (q : Request) :
    (c.answer q).2 = c.advance (c.answer q).2.state q.context (c.answer q).1 := by
  rw [answer_of_open hopen]
  exact c.follow_eq_advance (q.tellsOf_plan c.driver.escape c.registry)

end Session

def Operation.closes : Operation → Bool
  | .request _ => false
  | .disconnect _ _ => true

namespace Session

variable {σ : Type}

theorem frame_perform (c : Session σ) (op : Operation) :
    (c.perform op).2.driver = c.driver ∧ (c.perform op).2.registry = c.registry := by
  cases op with
  | disconnect isError message => exact ⟨rfl, rfl⟩
  | request q =>
      cases hstatus : c.status.connected with
      | false =>
          rw [perform, answer_of_closed hstatus]
          exact ⟨rfl, rfl⟩
      | true =>
          rw [perform, answer_eq_advance hstatus]
          exact ⟨rfl, rfl⟩

theorem connected_perform (c : Session σ) (op : Operation) :
    (c.perform op).2.status.connected = (c.status.connected && !op.closes) := by
  cases op with
  | disconnect isError message => exact (Bool.and_false _).symm
  | request q =>
      rw [Operation.closes, Bool.not_false, Bool.and_true]
      cases hstatus : c.status.connected with
      | false =>
          rw [perform, answer_of_closed hstatus]
          exact hstatus
      | true =>
          rw [perform, answer_eq_advance hstatus]
          exact (c.status.connected_after _ _).trans hstatus

/-- A session is open after operations when it was and none of them closes it. -/
theorem connected_performAll (c : Session σ) (ops : List Operation) :
    (c.performAll ops).2.status.connected = (c.status.connected && !ops.any Operation.closes) := by
  induction ops generalizing c with
  | nil => exact (Bool.and_true _).symm
  | cons op ops ih =>
      rw [performAll, List.any_cons, Bool.not_or, ← Bool.and_assoc, ← connected_perform]
      exact ih (c.perform op).2

end Session

end SqlSchema.Connection
