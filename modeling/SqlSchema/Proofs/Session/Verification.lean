import SqlSchema.Driver.Scripted
import SqlSchema.Proofs.Driver.Batch
import SqlSchema.Proofs.Session.Request
import SqlSchema.Proofs.Traversal

/-! # Tables at once and one by one

All tables are verified by one batch. On a driver that executes a batch statement by statement this
comes to the same as verifying one table after another, up to the words of a failing driver. -/

namespace SqlSchema.Connection

open SqlSchema.Driver SqlSchema.Schema SqlSchema.Traversal

/-! ## Compilation of all tables -/

def CompilesTo (escape : Escaper) (r : Registry) (table ddl : String) : Prop :=
  r.compile escape table = .ok ddl

variable {escape : Escaper} {r : Registry}

theorem exists_forall₂_compilesTo {tables : List String}
    (h : ∀ table ∈ tables, ∃ ddl, r.compile escape table = .ok ddl) :
    ∃ ddls, List.Forall₂ (CompilesTo escape r) tables ddls := by
  obtain ⟨ddls, hddls⟩ := exists_mapM_eq_ok_iff.mpr h
  exact ⟨ddls, mapM_eq_ok_iff.mp hddls⟩

/-- Of tables of which one does not compile, one is the first. -/
theorem exists_first_error {tables : List String}
    (h : ∃ table ∈ tables, ∃ cause, r.compile escape table = .error cause) :
    ∃ before table after cause, tables = before ++ table :: after ∧
      (∀ name ∈ before, ∃ ddl, r.compile escape name = .ok ddl) ∧
      r.compile escape table = .error cause := by
  cases hall : tables.mapM (r.compile escape) with
  | ok ddls =>
      obtain ⟨table, htable, cause, hcause⟩ := h
      obtain ⟨ddl, hddl⟩ := exists_mapM_eq_ok_iff.mp ⟨ddls, hall⟩ table htable
      rw [hcause] at hddl
      cases hddl
  | error cause =>
      obtain ⟨before, table, after, htables, hbefore, htable⟩ := mapM_eq_error_iff.mp hall
      exact ⟨before, table, after, cause, htables, hbefore, htable⟩

/-- A statement among others belongs to a table among others, at the same place. -/
theorem forall₂_append_cons {α β : Type} {R : α → β → Prop} {xs : List α} {before after : List β}
    {y : β} (h : List.Forall₂ R xs (before ++ y :: after)) :
    ∃ first x last, xs = first ++ x :: last ∧ List.Forall₂ R first before ∧ R x y := by
  induction before generalizing xs with
  | nil =>
      cases h with
      | cons hxy _ => exact ⟨[], _, _, rfl, .nil, hxy⟩
  | cons z before ih =>
      cases h with
      | cons hxz h =>
          obtain ⟨first, x, last, rfl, hfirst, hxy⟩ := ih h
          exact ⟨_ :: first, x, last, rfl, .cons hxz hfirst, hxy⟩

namespace Session

variable {σ : Type} {c : Session σ}

/-! ## One statement and one batch -/

theorem run_accepted {sql : String} {result : Execution} {t : σ}
    (hresult : c.driver.execute sql c.state = (.ok result, t))
    (haccepted : result.isRejected = false) (context : String) :
    c.run sql context = (.ok result, { c with state := t }) := by
  rw [run, hresult]
  cases result with
  | rejected r => cases haccepted
  | selected rows => rfl
  | modified m => rfl

theorem run_rejected {sql : String} {rejected : Rejection} {u : σ}
    (hresult : c.driver.execute sql c.state = (.ok (.rejected rejected), u)) (context : String) :
    c.run sql context = { c with state := u }.rejection context sql rejected.message := by
  rw [run, hresult]

theorem run_failed {sql : String} {cause : DriverFault} {u : σ}
    (hresult : c.driver.execute sql c.state = (.error cause, u)) (context : String) :
    c.run sql context = (.error (.driver cause),
      { c with state := u }.fail (context ++ ". Error: " ++ cause.message)) := by
  rw [run, hresult]

section Batch

variable (hbatch : c.driver.executeBatch = executeEach c.driver.execute)
variable {sqls : List String} {results : List Execution} {t : σ}
variable (h : Accepted c.driver.execute sqls results c.state t)

include hbatch h

theorem runAll_accepted (context : Nat → String) :
    c.runAll sqls context = (.ok results, { c with state := t }) := by
  have hlast : ∀ rejected, results.getLast? ≠ some (.rejected rejected) := by
    intro rejected hlast
    have hmem := List.mem_of_getLast? hlast
    cases h.isRejected_of_mem _ hmem
  rw [runAll, runBatch, hbatch, h.executeEach_eq]
  dsimp only
  split
  · exact absurd ‹_› (hlast _)
  · rfl

theorem runAll_rejected {sql : String} {rejected : Rejection} {u : σ}
    (hresult : c.driver.execute sql t = (.ok (.rejected rejected), u)) (after : List String)
    (context : Nat → String) :
    c.runAll (sqls ++ sql :: after) context =
      { c with state := u }.rejection (context sqls.length) sql rejected.message := by
  rw [runAll, runBatch, hbatch, h.executeEach_rejected hresult]
  simp [← h.length_eq]

theorem runAll_failed {sql : String} {cause : DriverFault} {u : σ}
    (hresult : c.driver.execute sql t = (.error cause, u)) (after : List String)
    (context : Nat → String) :
    c.runAll (sqls ++ sql :: after) context = (.error (.driver cause),
      { c with state := u }.fail ("Batch failed. Error: " ++ cause.message)) := by
  rw [runAll, runBatch, hbatch, h.executeEach_failed hresult]

end Batch

/-! ## One table after another -/

/-- The session after tables are verified one after another up to the first error, with the
statements that were sent. -/
def verifyEach (c : Session σ) : List String → Answer σ (List String)
  | [] => (.ok [], c)
  | table :: tables =>
    match c.verifyTable table with
    | (.error e, c) => (.error e, c)
    | (.ok ddl, c) => answerMap (ddl :: ·) (c.verifyEach tables)

theorem verifyTable_of_compile (hopen : c.status.connected = true) {table ddl : String}
    (hcompile : CompilesTo c.driver.escape c.registry table ddl) :
    c.verifyTable table =
      answerMap (fun _ => ddl) (c.run ddl ("Could not verify table " ++ table)) := by
  rw [verifyTable, whenOpen, hopen, hcompile]
  rfl

/-- Tables whose statements are accepted stand before what follows. -/
theorem verifyEach_append (hopen : c.status.connected = true) {tables ddls : List String}
    (hcompile : List.Forall₂ (CompilesTo c.driver.escape c.registry) tables ddls)
    {results : List Execution} {s t : σ} (h : Accepted c.driver.execute ddls results s t)
    (more : List String) :
    { c with state := s }.verifyEach (tables ++ more) =
      answerMap (ddls ++ ·) ({ c with state := t }.verifyEach more) := by
  -- Only the state of the driver moves along, so the session stays fixed under the induction.
  induction h generalizing tables with
  | nil s =>
      cases hcompile with
      | nil =>
          exact (answerMap_id _).symm
  | @cons _ _ s _ _ _ _ hresult haccepted _ ih =>
      cases hcompile with
      | cons hfirst hothers =>
          have hverify := verifyTable_of_compile (c := { c with state := s }) hopen hfirst
          rw [run_accepted hresult haccepted] at hverify
          rw [List.cons_append, verifyEach, hverify]
          exact (congrArg _ (ih hothers)).trans (answerMap_answerMap _ _ _)

theorem verifyEach_accepted (hopen : c.status.connected = true) {tables ddls : List String}
    (hcompile : List.Forall₂ (CompilesTo c.driver.escape c.registry) tables ddls)
    {results : List Execution} {s t : σ} (h : Accepted c.driver.execute ddls results s t) :
    { c with state := s }.verifyEach tables = (.ok ddls, { c with state := t }) := by
  have heach := verifyEach_append hopen hcompile h []
  rw [List.append_nil] at heach
  rw [heach, verifyEach, answerMap, Except.map, List.append_nil]

theorem verifyEach_stopped (hopen : c.status.connected = true) {before sent : List String}
    (hcompile : List.Forall₂ (CompilesTo c.driver.escape c.registry) before sent)
    {results : List Execution} {s t : σ} (h : Accepted c.driver.execute sent results s t)
    {table : String} {e : DatabaseError} {next : Session σ}
    (hstopped : { c with state := t }.verifyTable table = (.error e, next)) (after : List String) :
    { c with state := s }.verifyEach (before ++ table :: after) = (.error e, next) := by
  rw [verifyEach_append hopen hcompile h, verifyEach, hstopped]
  rfl

/-! ## Courses of a verification -/

/-- How all tables are verified at once and one by one, on statements of which some are executed.
The two ways differ in the words that a failure of the driver is recorded by. -/
inductive Agreement (c : Session σ) (tables ddls : List String) :
    List String → Answer σ (List String) → Answer σ (List String) → Prop
  | verified {results t} (h : Accepted c.driver.execute ddls results c.state t) :
      Agreement c tables ddls ddls (.ok ddls, { c with state := t })
        (.ok ddls, { c with state := t })
  | rejected {before table after sent ddl unsent results t rejected u}
      (htables : tables = before ++ table :: after) (hddls : ddls = sent ++ ddl :: unsent)
      (hplace : before.length = sent.length)
      (hcompile : CompilesTo c.driver.escape c.registry table ddl)
      (h : Accepted c.driver.execute sent results c.state t)
      (hresult : c.driver.execute ddl t = (.ok (.rejected rejected), u)) :
      Agreement c tables ddls (sent ++ [ddl])
        ({ c with state := u }.rejection ("Could not verify table " ++ table) ddl rejected.message)
        ({ c with state := u }.rejection ("Could not verify table " ++ table) ddl rejected.message)
  | failed {before table after sent ddl unsent results t cause u}
      (htables : tables = before ++ table :: after) (hddls : ddls = sent ++ ddl :: unsent)
      (hplace : before.length = sent.length)
      (hcompile : CompilesTo c.driver.escape c.registry table ddl)
      (h : Accepted c.driver.execute sent results c.state t)
      (hresult : c.driver.execute ddl t = (.error cause, u)) :
      Agreement c tables ddls (sent ++ [ddl])
        (.error (.driver cause), { c with state := u }.fail
          ("Batch failed. Error: " ++ cause.message))
        (.error (.driver cause), { c with state := u }.fail
          ("Could not verify table " ++ table ++ ". Error: " ++ cause.message))

namespace Agreement

variable {tables ddls executed : List String} {batch each : Answer σ (List String)}

theorem result_eq (h : Agreement c tables ddls executed batch each) : batch.1 = each.1 := by
  cases h <;> rfl

theorem state_eq (h : Agreement c tables ddls executed batch each) :
    batch.2.state = each.2.state := by
  cases h <;> rfl

end Agreement

section Courses

variable (hopen : c.status.connected = true)
variable (hbatch : c.driver.executeBatch = executeEach c.driver.execute)
variable {ddls : List String}
variable (hcompile :
  List.Forall₂ (CompilesTo c.driver.escape c.registry) c.registry.tableNames ddls)

include hopen hcompile

theorem verifyTables_of_compile :
    c.verifyTables = answerMap (fun _ => ddls) (c.runAll ddls fun place =>
      "Could not verify table " ++ c.registry.tableNames.getD place "") := by
  rw [verifyTables, whenOpen, hopen, Registry.compileAll, mapM_eq_ok_iff.mpr hcompile]
  rfl

include hbatch

theorem verify_accepted {results : List Execution} {t : σ}
    (h : Accepted c.driver.execute ddls results c.state t) :
    c.verifyTables = (.ok ddls, { c with state := t }) ∧
      c.verifyEach c.registry.tableNames = (.ok ddls, { c with state := t }) := by
  constructor
  · rw [verifyTables_of_compile hopen hcompile, runAll_accepted hbatch h]
    rfl
  · exact verifyEach_accepted hopen hcompile h

variable {before after sent unsent : List String} {table ddl : String}
variable (htables : c.registry.tableNames = before ++ table :: after)
variable (hddls : ddls = sent ++ ddl :: unsent)
variable (hbefore : List.Forall₂ (CompilesTo c.driver.escape c.registry) before sent)
variable (htable : CompilesTo c.driver.escape c.registry table ddl)
variable {results : List Execution} {t u : σ}
variable (h : Accepted c.driver.execute sent results c.state t)

include htables hddls hbefore htable h

theorem verify_rejected {rejected : Rejection}
    (hresult : c.driver.execute ddl t = (.ok (.rejected rejected), u)) :
    c.verifyTables =
        { c with state := u }.rejection ("Could not verify table " ++ table) ddl rejected.message ∧
      c.verifyEach c.registry.tableNames =
        { c with state := u }.rejection ("Could not verify table " ++ table) ddl
          rejected.message := by
  constructor
  · have hname : c.registry.tableNames.getD sent.length "" = table := by
      simp [htables, ← hbefore.length_eq]
    rw [verifyTables_of_compile hopen hcompile, hddls, runAll_rejected hbatch h hresult, hname]
    rfl
  · have hverify := verifyTable_of_compile (c := { c with state := t }) hopen htable
    rw [run_rejected hresult] at hverify
    rw [htables]
    exact verifyEach_stopped hopen hbefore h hverify after

theorem verify_failed {cause : DriverFault}
    (hresult : c.driver.execute ddl t = (.error cause, u)) :
    c.verifyTables = (.error (.driver cause),
        { c with state := u }.fail ("Batch failed. Error: " ++ cause.message)) ∧
      c.verifyEach c.registry.tableNames = (.error (.driver cause), { c with state := u }.fail
        ("Could not verify table " ++ table ++ ". Error: " ++ cause.message)) := by
  constructor
  · rw [verifyTables_of_compile hopen hcompile, hddls, runAll_failed hbatch h hresult]
    rfl
  · have hverify := verifyTable_of_compile (c := { c with state := t }) hopen htable
    rw [run_failed hresult] at hverify
    rw [htables]
    exact verifyEach_stopped hopen hbefore h hverify after

end Courses

def logged (c : Session σ) (log : List String) : Session (σ × List String) where
  driver := c.driver.logged
  state := (c.state, log)
  registry := c.registry
  status := c.status

/-- The batch and the tables one by one agree, and execute the same statements. -/
theorem exists_agreement (hopen : c.status.connected = true)
    (hbatch : c.driver.executeBatch = executeEach c.driver.execute) {ddls : List String}
    (hcompile :
      List.Forall₂ (CompilesTo c.driver.escape c.registry) c.registry.tableNames ddls) :
    let tables := c.registry.tableNames
    ∃ executed,
      Agreement c tables ddls executed c.verifyTables (c.verifyEach tables) ∧
      (c.logged []).verifyTables = (c.verifyTables.1, c.verifyTables.2.logged executed) ∧
      (c.logged []).verifyEach tables =
        ((c.verifyEach tables).1, (c.verifyEach tables).2.logged executed) := by
  intro tables
  -- The logged session follows the same course, so each course is used for both sessions.
  cases course c.driver.execute ddls c.state with
  | accepted h =>
      obtain ⟨hall, heach⟩ := verify_accepted hopen hbatch hcompile h
      have hlogged := verify_accepted (c := c.logged []) hopen rfl hcompile (h.logged [])
      rw [hall, heach]
      exact ⟨ddls, .verified h, hlogged⟩
  | @rejected sent ddl unsent results t rejected u hddls h hresult =>
      obtain ⟨before, table, after, htables, hbefore, htable⟩ :=
        forall₂_append_cons (hddls ▸ hcompile)
      obtain ⟨hall, heach⟩ := verify_rejected hopen hbatch hcompile htables hddls hbefore htable h
        hresult
      have hlogged := verify_rejected (c := c.logged []) hopen rfl hcompile htables hddls hbefore
        htable (h.logged []) (execute_logged hresult sent)
      rw [hall, heach]
      exact ⟨sent ++ [ddl], .rejected htables hddls hbefore.length_eq htable h hresult, hlogged⟩
  | @failed sent ddl unsent results t cause u hddls h hresult =>
      obtain ⟨before, table, after, htables, hbefore, htable⟩ :=
        forall₂_append_cons (hddls ▸ hcompile)
      obtain ⟨hall, heach⟩ := verify_failed hopen hbatch hcompile htables hddls hbefore htable h
        hresult
      have hlogged := verify_failed (c := c.logged []) hopen rfl hcompile htables hddls hbefore
        htable (h.logged []) (execute_logged hresult sent)
      rw [hall, heach]
      exact ⟨sent ++ [ddl], .failed htables hddls hbefore.length_eq htable h hresult, hlogged⟩

/-- The first table that does not compile is the error, and nothing is executed. -/
theorem verifyTables_of_error (hopen : c.status.connected = true)
    {before after : List String} {table : String} {cause : SchemaError}
    (htables : c.registry.tableNames = before ++ table :: after)
    (hbefore : ∀ name ∈ before, ∃ ddl, c.registry.compile c.driver.escape name = .ok ddl)
    (htable : c.registry.compile c.driver.escape table = .error cause) :
    c.verifyTables = (.error (.schema cause), c.fail cause.message) := by
  rw [verifyTables, whenOpen, hopen, Registry.compileAll,
    mapM_eq_error_iff.mpr ⟨before, table, after, htables, hbefore, htable⟩]
  rfl

/-- To verify all tables is to verify them one by one, up to the words of a failing driver; and
nothing is executed if one does not compile. -/
theorem verifyTables_agrees (c : Session σ) (hopen : c.status.connected = true)
    (hbatch : c.driver.executeBatch = executeEach c.driver.execute) :
    let tables := c.registry.tableNames
    let compile := c.registry.compile c.driver.escape
    let batch := c.verifyTables
    let each := c.verifyEach tables
    ((∀ table ∈ tables, ∃ ddl, compile table = .ok ddl) →
      batch.1 = each.1 ∧ batch.2.state = each.2.state ∧
        ∃ ddls executed, List.Forall₂ (fun table ddl => compile table = .ok ddl) tables ddls ∧
          Agreement c tables ddls executed batch each ∧
          (c.logged []).verifyTables = (batch.1, batch.2.logged executed) ∧
          (c.logged []).verifyEach tables = (each.1, each.2.logged executed)) ∧
      ((∃ table ∈ tables, ∃ cause, compile table = .error cause) →
        ∃ before table after cause, tables = before ++ table :: after ∧
          (∀ name ∈ before, ∃ ddl, compile name = .ok ddl) ∧ compile table = .error cause ∧
          batch = (.error (.schema cause), c.fail cause.message) ∧
          (c.logged []).verifyTables =
            (.error (.schema cause), (c.fail cause.message).logged [])) := by
  intro tables compile batch each
  constructor
  · intro hall
    obtain ⟨ddls, hddls⟩ := exists_forall₂_compilesTo hall
    obtain ⟨executed, hagreement, hlogged⟩ := exists_agreement hopen hbatch hddls
    exact ⟨hagreement.result_eq, hagreement.state_eq, ddls, executed, hddls, hagreement, hlogged⟩
  · intro hdefect
    obtain ⟨before, table, after, cause, htables, hbefore, htable⟩ := exists_first_error hdefect
    have hlogged := verifyTables_of_error (c := c.logged []) hopen htables hbefore htable
    exact ⟨before, table, after, cause, htables, hbefore, htable,
      verifyTables_of_error hopen htables hbefore htable, hlogged⟩

/-- Two tables, of which the backend rejects the second. -/
theorem verifyTables_agrees_scripted :
    let config : Config := ⟨.nil, "", .sqlite, .inMemory⟩
    let script : Script := { rules := [⟨"b", true, .reject "no" 0⟩] }
    let c := start (scripted config id none) script ⟨[("a", Table.empty), ("b", Table.empty)]⟩
    c.status.connected = true ∧ c.driver.executeBatch = executeEach c.driver.execute ∧
      c.verifyTables.1 = (c.verifyEach c.registry.tableNames).1 := by
  intro config script c
  refine ⟨rfl, rfl, ((verifyTables_agrees c rfl rfl).1 ?_).1⟩
  intro table htable
  have hnames : table ∈ ["a", "b"] := htable
  rcases List.mem_pair.mp hnames with rfl | rfl <;> exact ⟨_, rfl⟩

end Session

end SqlSchema.Connection
