import SqlSchema.Proofs.Session.Request
import SqlSchema.Proofs.Text.Blank

/-! # The calls of a session

A driver is given a log of the calls that reach it. Under the log a run of a session is the run that
it was, and the log holds what each operation contributes, up to the first disconnection. -/

namespace SqlSchema

open Connection Driver Schema Text

/-! ## Recorded drivers -/

inductive Driver.Call
  | execute (sql : String)
  | batch (statements : List String)
  | disconnect
  deriving Repr, DecidableEq

/-- The driver with a log of the calls that a session makes. -/
def Driver.recorded {σ : Type} (d : Driver σ) : Driver (σ × List Call) where
  backend := d.backend
  config := d.config
  escape := d.escape
  connect := fun s => ((d.connect s.1).1, (d.connect s.1).2, s.2)
  disconnect := fun s => ((d.disconnect s.1).1, (d.disconnect s.1).2, s.2 ++ [.disconnect])
  isConnected := fun s => ((d.isConnected s.1).1, (d.isConnected s.1).2, s.2)
  execute := fun sql s => ((d.execute sql s.1).1, (d.execute sql s.1).2, s.2 ++ [.execute sql])
  executeBatch := fun statements s =>
    ((d.executeBatch statements s.1).1, (d.executeBatch statements s.1).2,
      s.2 ++ [.batch statements])
  stats := fun s => d.stats s.1

namespace Connection

/-! ## Contributions -/

/-- The calls that a request on an open session contributes. -/
def Request.calls (escape : Escaper) (r : Registry) : Request → List Call
  | .verifyTable table =>
    match r.compile escape table with
    | .ok ddl => [.execute ddl]
    | .error _ => []
  | .verifyTables =>
    match r.compileAll escape with
    | .ok ddls => [.batch ddls]
    | .error _ => []
  | .insert table values => [.execute (Statement.insert escape table values)]
  | .select table selection => [.execute (Statement.select escape table selection)]
  | .update table values condition =>
    ((Statement.update? table values condition).map .execute).toList
  | .updateAll table values => [.execute (Statement.updateAll escape table values)]
  | .delete table condition => ((Statement.delete? table condition).map .execute).toList
  | .deleteAll table => [.execute (Statement.deleteAll table)]
  | .executeBatch statements => [.batch statements]

/-- The calls of operations on an open session. The first disconnection contributes the last. -/
def sentCalls (escape : Escaper) (r : Registry) : List Operation → List Call
  | [] => []
  | .request q :: ops => q.calls escape r ++ sentCalls escape r ops
  | .disconnect _ _ :: _ => [.disconnect]

def Plan.calls : Plan → List Call
  | .defect _ => []
  | .skip _ => []
  | .statement sql _ _ => [.execute sql]
  | .batch statements _ _ => [.batch statements]

theorem calls_plan (escape : Escaper) (r : Registry) (q : Request) :
    (q.plan escape r).calls = q.calls escape r := by
  cases q with
  | verifyTable table =>
      rw [Request.plan, Request.calls]
      cases r.compile escape table <;> rfl
  | verifyTables =>
      rw [Request.plan, Request.calls]
      cases r.compileAll escape <;> rfl
  | update table values condition =>
      rw [Request.plan, Request.calls]
      cases Statement.update? table values condition <;> rfl
  | delete table condition =>
      rw [Request.plan, Request.calls]
      cases Statement.delete? table condition <;> rfl
  | _ => rfl

namespace Session

variable {σ α β : Type}

/-! ## Sessions over recorded drivers -/

def recorded (c : Session σ) (log : List Call) : Session (σ × List Call) where
  driver := c.driver.recorded
  state := (c.state, log)
  registry := c.registry
  status := c.status

def recordedAnswer (a : Answer σ α) (log : List Call) : Answer (σ × List Call) α :=
  (a.1, a.2.recorded log)

theorem answerMap_recordedAnswer (f : α → β) (a : Answer σ α) (log : List Call) :
    answerMap f (recordedAnswer a log) = recordedAnswer (answerMap f a) log :=
  rfl

theorem run_recorded (c : Session σ) (log : List Call) (sql context : String) :
    (c.recorded log).run sql context =
      recordedAnswer (c.run sql context) (log ++ [.execute sql]) := by
  have hexecute : (c.recorded log).driver.execute sql (c.recorded log).state =
      ((c.driver.execute sql c.state).1, (c.driver.execute sql c.state).2,
        log ++ [.execute sql]) := rfl
  unfold run
  rw [hexecute]
  generalize c.driver.execute sql c.state = executed
  obtain ⟨result, state⟩ := executed
  cases result with
  | error cause => rfl
  | ok result => cases result <;> rfl

theorem runBatch_recorded (c : Session σ) (log : List Call) (statements : List String) :
    (c.recorded log).runBatch statements =
      recordedAnswer (c.runBatch statements) (log ++ [.batch statements]) := by
  have hexecute : (c.recorded log).driver.executeBatch statements (c.recorded log).state =
      ((c.driver.executeBatch statements c.state).1,
        (c.driver.executeBatch statements c.state).2, log ++ [.batch statements]) := rfl
  unfold runBatch
  rw [hexecute]
  generalize c.driver.executeBatch statements c.state = executed
  obtain ⟨result, state⟩ := executed
  cases result <;> rfl

theorem runAll_recorded (c : Session σ) (log : List Call) (statements : List String)
    (context : Nat → String) :
    (c.recorded log).runAll statements context =
      recordedAnswer (c.runAll statements context) (log ++ [.batch statements]) := by
  unfold runAll
  rw [runBatch_recorded]
  generalize c.runBatch statements = sent
  obtain ⟨result, next⟩ := sent
  cases result with
  | error e => rfl
  | ok results =>
      dsimp only [recordedAnswer]
      split <;> rfl

/-- Following a plan makes the calls of the plan, and nothing else tells the log. -/
theorem follow_recorded (c : Session σ) (log : List Call) (p : Plan) :
    (c.recorded log).follow p = recordedAnswer (c.follow p) (log ++ p.calls) := by
  cases p with
  | defect cause =>
      rw [Plan.calls, List.append_nil]
      rfl
  | skip receipt =>
      rw [Plan.calls, List.append_nil]
      rfl
  | statement sql context receipt =>
      rw [follow, run_recorded, answerMap_recordedAnswer]
      rfl
  | batch statements context receipt =>
      rw [follow, runAll_recorded, answerMap_recordedAnswer]
      rfl

/-! ## Runs over recorded drivers -/

theorem answer_recorded {c : Session σ} (hopen : c.status.connected = true) (log : List Call)
    (q : Request) :
    (c.recorded log).answer q =
      recordedAnswer (c.answer q) (log ++ q.calls c.driver.escape c.registry) := by
  have hrecorded : (c.recorded log).status.connected = true := hopen
  rw [answer_of_open hrecorded, answer_of_open hopen, ← calls_plan]
  exact c.follow_recorded log _

/-- A closed session makes no call. -/
theorem performAll_recorded_of_closed {c : Session σ} (hclosed : c.status.connected = false)
    (log : List Call) (ops : List Operation) :
    (c.recorded log).performAll ops =
      ((c.performAll ops).1, (c.performAll ops).2.recorded log) := by
  induction ops generalizing c with
  | nil => rfl
  | cons op ops ih =>
      have hstep : (c.recorded log).perform op = recordedAnswer (c.perform op) log := by
        cases op with
        | request q =>
            have hrecorded : (c.recorded log).status.connected = false := hclosed
            rw [perform, answer_of_closed hrecorded, perform, answer_of_closed hclosed]
            rfl
        | disconnect isError message =>
            have hrecorded : (c.recorded log).status.connected = false := hclosed
            rw [perform, perform, disconnect, disconnect, hrecorded, hclosed]
            rfl
      have hnext : (c.perform op).2.status.connected = false := by
        rw [connected_perform, hclosed, Bool.false_and]
      rw [performAll, performAll, hstep]
      dsimp only [recordedAnswer]
      rw [ih hnext]

/-- The log of an open session grows by what its operations contribute. -/
theorem performAll_recorded {c : Session σ} (hopen : c.status.connected = true) (log : List Call)
    (ops : List Operation) :
    (c.recorded log).performAll ops =
      ((c.performAll ops).1, (c.performAll ops).2.recorded
        (log ++ sentCalls c.driver.escape c.registry ops)) := by
  -- A request keeps the session open and its driver and schema fixed, so the contributions of the
  -- rest are those of the same driver and schema.
  induction ops generalizing c log with
  | nil =>
      rw [sentCalls, List.append_nil]
      rfl
  | cons op ops ih =>
      cases op with
      | request q =>
          have hnext : (c.answer q).2.status.connected = true := by
            rw [← hopen, ← Bool.and_true c.status.connected]
            exact c.connected_perform (.request q)
          have hframe : (c.answer q).2.driver = c.driver ∧ (c.answer q).2.registry = c.registry :=
            c.frame_perform (.request q)
          rw [performAll, performAll, perform, perform, answer_recorded hopen]
          dsimp only [recordedAnswer]
          rw [ih hnext, hframe.1, hframe.2, sentCalls, List.append_assoc]
      | disconnect isError message =>
          have hstep : (c.recorded log).disconnect isError message =
              (c.disconnect isError message).recorded (log ++ [.disconnect]) := by
            have hrecorded : (c.recorded log).status.connected = true := hopen
            rw [disconnect, disconnect, hrecorded, hopen]
            rfl
          have hclosed : (c.disconnect isError message).status.connected = false := rfl
          rw [performAll, performAll, perform, perform, hstep]
          dsimp only
          rw [performAll_recorded_of_closed hclosed, sentCalls]

end Session

/-! ## Blank conditions -/

theorem update?_eq_none_iff (table : String) (values : Values) (condition : String) :
    Statement.update? table values condition = none ↔
      ∀ ch ∈ condition.toList, isBlankChar ch = true := by
  rw [← isBlank_iff]
  by_cases hblank : isBlank condition = true <;> simp [Statement.update?, hblank]

theorem delete?_eq_none_iff (table condition : String) :
    Statement.delete? table condition = none ↔
      ∀ ch ∈ condition.toList, isBlankChar ch = true := by
  rw [← isBlank_iff]
  by_cases hblank : isBlank condition = true <;> simp [Statement.delete?, hblank]

namespace Session

variable {σ : Type}

theorem update_of_blank {c : Session σ} (hopen : c.status.connected = true) (table : String)
    (values : Values) {condition : String}
    (hblank : ∀ ch ∈ condition.toList, isBlankChar ch = true) :
    c.answer (.update table values condition) = (.ok (.outcome .skipped), c) := by
  rw [answer_of_open hopen, Request.plan, (update?_eq_none_iff table values condition).mpr hblank]
  rfl

theorem delete_of_blank {c : Session σ} (hopen : c.status.connected = true) (table : String)
    {condition : String} (hblank : ∀ ch ∈ condition.toList, isBlankChar ch = true) :
    c.answer (.delete table condition) = (.ok (.outcome .skipped), c) := by
  rw [answer_of_open hopen, Request.plan, (delete?_eq_none_iff table condition).mpr hblank]
  rfl

/-- A run sends the contributions of its operations, in order. A blank condition contributes
nothing and is skipped, and after a disconnection every request is refused. -/
theorem start_performAll_calls (d : Driver σ) (s : σ) (r : Registry) (ops : List Operation) :
    let answers := ((start d s r).performAll ops).1
    let next := ((start d s r).performAll ops).2
    (start d.recorded (s, []) r).performAll ops =
        (answers, next.recorded (sentCalls d.escape r ops)) ∧
      (∀ table values condition,
        ((Request.update table values condition).calls d.escape r = [] ↔
          ∀ ch ∈ condition.toList, isBlankChar ch = true) ∧
        ((Request.delete table condition).calls d.escape r = [] ↔
          ∀ ch ∈ condition.toList, isBlankChar ch = true)) ∧
      (ops.any Operation.closes = false → ∀ table values condition,
        (∀ ch ∈ condition.toList, isBlankChar ch = true) →
        next.answer (.update table values condition) = (.ok (.outcome .skipped), next) ∧
        next.answer (.delete table condition) = (.ok (.outcome .skipped), next)) ∧
      (ops.any Operation.closes = true → ∀ q, next.answer q = (.error .notConnected, next)) := by
  intro answers next
  have hconnected : next.status.connected = !ops.any Operation.closes :=
    (start d s r).connected_performAll ops
  refine ⟨?_, ?_, ?_, ?_⟩
  · exact performAll_recorded (c := start d s r) rfl [] ops
  · intro table values condition
    have hupdate := update?_eq_none_iff table values condition
    have hdelete := delete?_eq_none_iff table condition
    exact ⟨by simp [Request.calls, hupdate], by simp [Request.calls, hdelete]⟩
  · intro hopen table values condition hblank
    rw [hopen, Bool.not_false] at hconnected
    exact ⟨update_of_blank hconnected table values hblank, delete_of_blank hconnected table hblank⟩
  · intro hclosed q
    rw [hclosed, Bool.not_true] at hconnected
    exact answer_of_closed hconnected q

end Session

end Connection

end SqlSchema
