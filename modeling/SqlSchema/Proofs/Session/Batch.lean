import SqlSchema.Proofs.Session.Verification

/-! # Batches of statements

A batch stops at the first statement that is rejected or fails, and its error tells of that one. -/

namespace SqlSchema

open Connection Driver

/-! ## Results of a batch -/

namespace Driver

variable {σ : Type} {execute : String → σ → Except DriverFault Execution × σ}

/-- What a batch gives after the statements from a state: no more results than statements, of which
only the last may be a rejection, and then that of the statement at its place. -/
structure BatchResults (execute : String → σ → Except DriverFault Execution × σ)
    (sqls : List String) (results : List Execution) (u : σ) : Prop where
  length_le : results.length ≤ sqls.length
  kept : ∀ result ∈ results.dropLast, result.isRejected = false
  last : ∀ r, results.getLast? = some (.rejected r) → ∃ sql t,
    sqls[results.length - 1]? = some sql ∧ execute sql t = (.ok (.rejected r), u)

theorem Accepted.batchResults {sqls : List String} {results : List Execution} {s t : σ}
    (h : Accepted execute sqls results s t) : BatchResults execute sqls results t where
  length_le := Nat.le_of_eq h.length_eq.symm
  kept result hresult := h.isRejected_of_mem result (List.dropLast_subset results hresult)
  last _ hlast := nomatch h.isRejected_of_mem _ (List.mem_of_getLast? hlast)

theorem batchResults_of_executeEach {sqls : List String} {results : List Execution} {s u : σ}
    (hbatch : executeEach execute sqls s = (.ok results, u)) :
    BatchResults execute sqls results u := by
  cases course execute sqls s with
  | accepted h =>
      rw [h.executeEach_eq] at hbatch
      cases hbatch
      exact h.batchResults
  | @rejected before sql after kept t r u hsqls h hresult =>
      rw [hsqls, h.executeEach_rejected hresult] at hbatch
      cases hbatch
      refine ⟨?_, ?_, ?_⟩
      · simp [hsqls, h.length_eq]
      · simpa using h.isRejected_of_mem
      · intro r' hlast
        obtain rfl : r = r' := by simpa using hlast
        exact ⟨sql, t, by simp [hsqls, ← h.length_eq], hresult⟩
  | failed hsqls h hresult =>
      rw [hsqls, h.executeEach_failed hresult] at hbatch
      cases hbatch

end Driver

namespace Connection.Session

variable {σ : Type} {c : Session σ}

/-! ## Batches on a session -/

def batchContext (place count : Nat) : String :=
  s!"Could not execute statement {place + 1} of {count}"

theorem executeBatch_of_open (hopen : c.status.connected = true) (sqls : List String) :
    c.executeBatch sqls = c.runAll sqls fun place => batchContext place sqls.length := by
  rw [executeBatch, whenOpen, hopen]
  rfl

/-- The session with a log executes just these statements in a batch, in this order, and is answered
as without the log. -/
def ExecutesInBatch (c : Session σ) (sqls executed : List String) : Prop :=
  (c.logged []).executeBatch sqls =
    ((c.executeBatch sqls).1, (c.executeBatch sqls).2.logged executed)

/-- What a batch comes to on a session. -/
structure BatchSpec (c : Session σ) (sqls : List String) : Prop where
  course : Course c.driver.execute sqls c.state
  accepted : ∀ results t, Accepted c.driver.execute sqls results c.state t →
    results.length = sqls.length ∧ c.executeBatch sqls = (.ok results, { c with state := t }) ∧
      c.ExecutesInBatch sqls sqls
  rejected : ∀ before sql after results t r u, sqls = before ++ sql :: after →
    Accepted c.driver.execute before results c.state t →
    c.driver.execute sql t = (.ok (.rejected r), u) →
    (c.executeBatch sqls).1 =
        .error (.rejected (batchContext before.length sqls.length) sql r.message) ∧
      (c.executeBatch sqls).2.state = u ∧ c.ExecutesInBatch sqls (before ++ [sql])
  failed : ∀ before sql after results t cause u, sqls = before ++ sql :: after →
    Accepted c.driver.execute before results c.state t →
    c.driver.execute sql t = (.error cause, u) →
    (c.executeBatch sqls).1 = .error (.driver cause) ∧ (c.executeBatch sqls).2.state = u ∧
      c.ExecutesInBatch sqls (before ++ [sql])
  results : ∀ results u, c.driver.executeBatch sqls c.state = (.ok results, u) →
    BatchResults c.driver.execute sqls results u

theorem executesInBatch_accepted (hopen : c.status.connected = true)
    (hbatch : c.driver.executeBatch = executeEach c.driver.execute) {sqls : List String}
    {results : List Execution} {t : σ}
    (h : Accepted c.driver.execute sqls results c.state t) :
    c.executeBatch sqls = (.ok results, { c with state := t }) ∧ c.ExecutesInBatch sqls sqls := by
  have hlogged : (c.logged []).status.connected = true := hopen
  rw [ExecutesInBatch, executeBatch_of_open hopen, executeBatch_of_open hlogged,
    runAll_accepted hbatch h, runAll_accepted (c := c.logged []) rfl (h.logged [])]
  exact ⟨rfl, rfl⟩

section Stopped

variable (hopen : c.status.connected = true)
variable (hbatch : c.driver.executeBatch = executeEach c.driver.execute)
variable {before after : List String} {sql : String} {results : List Execution} {t u : σ}
variable (h : Accepted c.driver.execute before results c.state t)

include hopen hbatch h

theorem executesInBatch_rejected {r : Rejection}
    (hresult : c.driver.execute sql t = (.ok (.rejected r), u)) :
    let sqls := before ++ sql :: after
    c.executeBatch sqls =
        { c with state := u }.rejection (batchContext before.length sqls.length) sql r.message ∧
      c.ExecutesInBatch sqls (before ++ [sql]) := by
  intro sqls
  have hlogged : (c.logged []).status.connected = true := hopen
  rw [ExecutesInBatch, executeBatch_of_open hopen, executeBatch_of_open hlogged,
    runAll_rejected hbatch h hresult,
    runAll_rejected (c := c.logged []) rfl (h.logged []) (execute_logged hresult before)]
  exact ⟨rfl, rfl⟩

theorem executesInBatch_failed {cause : DriverFault}
    (hresult : c.driver.execute sql t = (.error cause, u)) :
    let sqls := before ++ sql :: after
    c.executeBatch sqls = (.error (.driver cause),
        { c with state := u }.fail ("Batch failed. Error: " ++ cause.message)) ∧
      c.ExecutesInBatch sqls (before ++ [sql]) := by
  intro sqls
  have hlogged : (c.logged []).status.connected = true := hopen
  rw [ExecutesInBatch, executeBatch_of_open hopen, executeBatch_of_open hlogged,
    runAll_failed hbatch h hresult,
    runAll_failed (c := c.logged []) rfl (h.logged []) (execute_logged hresult before)]
  exact ⟨rfl, rfl⟩

end Stopped

/-- A batch is answered by the results of all its statements if none is rejected or fails. Otherwise
it ends with the first that does, which the error tells of, and nothing behind it is executed. -/
theorem executeBatch_spec (hopen : c.status.connected = true)
    (hbatch : c.driver.executeBatch = executeEach c.driver.execute) (sqls : List String) :
    c.BatchSpec sqls where
  course := course c.driver.execute sqls c.state
  accepted results t h := ⟨h.length_eq.symm, executesInBatch_accepted hopen hbatch h⟩
  rejected := by
    rintro before sql after results t r u rfl h hresult
    obtain ⟨hanswer, hexecuted⟩ := executesInBatch_rejected hopen hbatch h hresult
    rw [hanswer]
    exact ⟨rfl, rfl, hexecuted⟩
  failed := by
    rintro before sql after results t cause u rfl h hresult
    obtain ⟨hanswer, hexecuted⟩ := executesInBatch_failed hopen hbatch h hresult
    rw [hanswer]
    exact ⟨rfl, rfl, hexecuted⟩
  results results u h := batchResults_of_executeEach (hbatch ▸ h)

/-- Three statements of which the second is rejected, and two of which the second fails. -/
theorem executeBatch_spec_scripted :
    let script : Script :=
      { rules := [⟨"b", false, .reject "no" 0⟩, ⟨"c", false, .fail "gone"⟩] }
    let c := start (scripted ⟨.nil, "", .sqlite, .inMemory⟩ id none) script ⟨[]⟩
    c.status.connected = true ∧ c.driver.executeBatch = executeEach c.driver.execute ∧
      (c.executeBatch ["a", "b", "c"]).1 =
        .error (.rejected "Could not execute statement 2 of 3" "b" "no") ∧
      c.ExecutesInBatch ["a", "b", "c"] ["a", "b"] ∧
      (c.executeBatch ["a", "c"]).1 = .error (.driver (.stated "gone")) ∧
      c.ExecutesInBatch ["a", "c"] ["a", "c"] := by
  intro script c
  have h : Accepted c.driver.execute ["a"] _ c.state _ := .cons rfl rfl (.nil _)
  obtain ⟨hrejected, -, hstopped⟩ :=
    (executeBatch_spec (c := c) rfl rfl ["a", "b", "c"]).rejected ["a"] "b" ["c"] _ _ _ _ rfl h rfl
  obtain ⟨hfailed, -, hended⟩ :=
    (executeBatch_spec (c := c) rfl rfl ["a", "c"]).failed ["a"] "c" [] _ _ _ _ rfl h rfl
  exact ⟨rfl, rfl, hrejected, hstopped, hfailed, hended⟩

end Connection.Session

end SqlSchema
